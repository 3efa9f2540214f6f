/-
  The configuration of the Sentinels (`renderSentinelConf`), and what of it a restart depends on
  (`sentinelConfigHash`).

      port 26379                                     hashed
      dir /data                                      hashed
      sentinel monitor mymaster <host> <port> <q>    hashed
      sentinel down-after-milliseconds mymaster <ms>     left out: set live
      sentinel failover-timeout mymaster <ms>            left out: set live
      sentinel parallel-syncs … , …-hostnames yes    hashed
      sentinel auth-user mymaster sentinel-user      hashed: there IS a password
      sentinel auth-pass mymaster <quoted>               left out if rotated live
      requirepass <quoted>                               left out if rotated live
      tls-port 26380, port 0, tls-…                  hashed

  The hash is taken of the lines that are left after a filter by line prefixes.  Two renderings are
  compared through it, and BOTH directions rest on the quoting: a byte
  of a password that started a new line could add a line that is hashed, or hide one that should be.
  `valkeyConfigArg` never writes a newline (`newline_not_mem_valkeyConfigArg`), and it can be read
  back (`valkeyConfigArg_injective`), so that a user's password is told from every other.

  A byte is a character below 256; nothing here depends on the bound.
-/
import Wellcake.Base.ConfigLine
import Wellcake.Controller.TlsReload
import Wellcake.Controller.UsersAcl

namespace Wellcake.Sentinel

open Text Shell ConfigLine

/-! ## Quoting -/

/-- The bytes that are written as a backslash and one character. -/
def shortEscapes : List (Char × Char) :=
  [('\\', '\\'), ('"', '"'), ('\x07', 'a'), ('\x08', 'b'), ('\n', 'n'), ('\r', 'r'), ('\t', 't')]

/-- What `valkeyConfigArg` writes for one byte. -/
def escapeByte (c : Char) : Chars :=
  match shortEscapes.lookup c with
  | some e => ['\\', e]
  | none =>
    if c.toNat < 0x20 ∨ c.toNat = 0x7f then
      ['\\', 'x', Nat.digitChar (c.toNat / 16), Nat.digitChar (c.toNat % 16)]
    else [c]

section

variable (value : Chars)

/-- `valkeyConfigArg`. -/
def valkeyConfigArg : Chars := '"' :: (value.flatMap escapeByte ++ ['"'])

/-- A short escape is one of the table. -/
theorem mem_shortEscapes {c e : Char} (h : shortEscapes.lookup c = some e) :
    (c, e) ∈ shortEscapes := by
  obtain ⟨l₁, l₂, heq, -⟩ := List.lookup_eq_some_iff.mp h
  rw [heq]
  exact List.mem_append_right l₁ (.head _)

/-- The digits of a control byte are its two. -/
theorem hex_digits {n : Nat} (h : n < 0x20 ∨ n = 0x7f) :
    isHexDigit (Nat.digitChar (n / 16)) = true ∧ isHexDigit (Nat.digitChar (n % 16)) = true ∧
      16 * hexValue (Nat.digitChar (n / 16)) + hexValue (Nat.digitChar (n % 16)) = n := by
  have hall : ∀ n < 0x80, isHexDigit (Nat.digitChar (n / 16)) = true ∧
      isHexDigit (Nat.digitChar (n % 16)) = true ∧
      16 * hexValue (Nat.digitChar (n / 16)) + hexValue (Nat.digitChar (n % 16)) = n := by
    decide +kernel
  exact hall n (by omega)

/-- **Every byte is read back**, whatever follows it: a control byte has its two digits. -/
theorem quoted_escapeByte (c : Char) (current s : Chars) :
    quoted current (escapeByte c ++ s) = quoted (current ++ [c]) s := by
  unfold escapeByte
  split
  next e he =>
    have hshort : ∀ x ∈ shortEscapes, x.2 ≠ 'x' ∧ unescape x.2 = x.1 := by decide
    obtain ⟨hx, hback⟩ := hshort (c, e) (mem_shortEscapes he)
    refine (quoted_escape hx).trans ?_
    rw [hback]
    rfl
  next hnone =>
    split
    next h =>
      obtain ⟨hhigh, hlow, hvalue⟩ := hex_digits h
      refine (quoted_hex hhigh hlow).trans ?_
      rw [hvalue, Char.ofNat_toNat]
      rfl
    next =>
      refine quoted_self ?_ ?_ <;> rintro rfl <;> cases hnone

/-- **A value is read back.** -/
theorem quoted_valkeyConfigArg :
    quoted [] (value.flatMap escapeByte ++ ['"']) = some (value, []) := by
  rw [quoted_flatMap fun c _ current s => quoted_escapeByte c current s]
  exact quoted_close rfl

theorem valkeyConfigArg_injective : Function.Injective valkeyConfigArg := by
  intro p q h
  have hread := congrArg (quoted []) (List.cons.inj h).2
  rw [quoted_valkeyConfigArg, quoted_valkeyConfigArg] at hread
  exact congrArg Prod.fst (Option.some.inj hread)

/-- Not a control byte. -/
def Printable (c : Char) : Prop := 0x20 ≤ c.toNat ∧ c.toNat ≠ 0x7f

instance (c : Char) : Decidable (Printable c) := inferInstanceAs (Decidable (_ ∧ _))

theorem printable_escapeByte (c : Char) : ∀ d ∈ escapeByte c, Printable d := by
  unfold escapeByte
  split
  next e he =>
    have hshort : ∀ x ∈ shortEscapes, ∀ d ∈ ['\\', x.2], Printable d := by decide
    exact hshort (c, e) (mem_shortEscapes he)
  next hnone =>
    split
    next h =>
      have hdigit : ∀ n < 16, Printable (Nat.digitChar n) := by decide
      have hhigh : c.toNat / 16 < 16 := by omega
      have hlow : c.toNat % 16 < 16 := by omega
      simp only [List.forall_mem_cons]
      exact ⟨by decide, by decide, hdigit _ hhigh, hdigit _ hlow, List.forall_mem_nil _⟩
    next h =>
      intro d hd
      rw [List.mem_singleton.mp hd]
      exact ⟨by omega, by omega⟩

/-- **A password has no control byte left**, so it never starts a line. -/
theorem printable_valkeyConfigArg : ∀ c ∈ valkeyConfigArg value, Printable c := by
  intro c h
  rcases List.mem_cons.mp h with rfl | h
  · decide
  · rcases List.mem_append.mp h with h | hq
    · obtain ⟨b, -, hb⟩ := List.mem_flatMap.mp h
      exact printable_escapeByte b c hb
    · rw [List.mem_singleton.mp hq]
      decide

theorem newline_not_mem_valkeyConfigArg : '\n' ∉ valkeyConfigArg value :=
  fun h => absurd (printable_valkeyConfigArg value _ h) (by decide)

end

/-! ## The configuration -/

/-- `%d` of an `int32`. -/
def intText (n : Int) : Chars := (toString n).toList

/-- `sentinelMasterName`. -/
def masterName : Chars := "mymaster".toList

section

variable (s : SentinelSpec) (vc : ValkeyCluster)

/-- `sentinelDownAfterMs`. -/
def sentinelDownAfterMs : Int :=
  if 0 < s.downAfterMilliseconds then s.downAfterMilliseconds else 5000

/-- `sentinelFailoverTimeout`. -/
def sentinelFailoverTimeout : Int :=
  if 0 < s.failoverTimeout then s.failoverTimeout else 60000

/-- The quorum of the monitor line. -/
def sentinelQuorum : Int :=
  if s.quorum = 0 then s.replicas.tdiv 2 + 1 else s.quorum

/-- The address of the monitor line: pod-0. -/
def monitoredHost : Chars :=
  (stsPodHost (statefulSetName vc) 0 (headlessServiceName vc) vc.namespace_).toList

/-- The port of the monitor line: `valkeyPort` or `valkeyTLSPort`. -/
def monitoredPort : Chars := if Tls.tlsEnabled vc then "6380".toList else "6379".toList

/-- `sentinel monitor mymaster <host> <port> <quorum>`. -/
def monitorLine (host port : Chars) (s : SentinelSpec) : Line :=
  unwords ["sentinel".toList, "monitor".toList, masterName, host, port, intText (sentinelQuorum s)]

/-- The lines before the timings. -/
def headLines (s : SentinelSpec) : List Line :=
  ["port 26379".toList, "dir /data".toList, monitorLine (monitoredHost vc) (monitoredPort vc) s]

/-- The timings. -/
def timingLines : List Line :=
  ["sentinel down-after-milliseconds mymaster ".toList ++ intText (sentinelDownAfterMs s),
    "sentinel failover-timeout mymaster ".toList ++ intText (sentinelFailoverTimeout s)]

end

/-- The lines after the timings. -/
def tailLines : List Line :=
  ["sentinel parallel-syncs mymaster 1".toList, "sentinel resolve-hostnames yes".toList,
    "sentinel announce-hostnames yes".toList]

/-- The user the Sentinels authenticate as. -/
def authUserLine : Line := "sentinel auth-user mymaster ".toList ++ UsersAcl.sentinelACLUser.toList

/-- The two lines with the password. -/
def passwordLines (password : Chars) : List Line :=
  ["sentinel auth-pass mymaster ".toList ++ valkeyConfigArg password,
    "requirepass ".toList ++ valkeyConfigArg password]

/-- The lines a password adds. -/
def authLines (password : Chars) : List Line :=
  if password ≠ [] then authUserLine :: passwordLines password else []

section

variable (vc : ValkeyCluster) (s : SentinelSpec) (password : Chars)

/-- The lines TLS adds. -/
def tlsLines : List Line :=
  if Tls.tlsEnabled vc then
    ["tls-port 26380".toList, "port 0".toList, "tls-cert-file /etc/valkey/tls/tls.crt".toList,
      "tls-key-file /etc/valkey/tls/tls.key".toList, "tls-ca-cert-file /etc/valkey/tls/ca.crt".toList,
      "tls-replication yes".toList, "tls-auth-clients optional".toList]
  else []

/-- The lines of the configuration. -/
def confLines : List Line :=
  headLines vc s ++ timingLines s ++ tailLines ++ authLines password ++ tlsLines vc

/-- `renderSentinelConf`; `s` is `vc.Spec.Sentinel`, which the callers have found there. -/
def renderSentinelConf : Chars :=
  unlines (confLines vc s password)

/-- `sentinelPasswordRotatesLive`: the password is the operator's. -/
def sentinelPasswordRotatesLive : Bool :=
  vc.spec.auth.all fun auth => auth.existingSecret == ""

end

/-- The lines `sentinelConfigHash` keeps. -/
def keepsLine (livePassword : Bool) (line : Line) : Bool :=
  !("sentinel down-after-milliseconds ".toList.isPrefixOf line ||
      "sentinel failover-timeout ".toList.isPrefixOf line) &&
    !(livePassword &&
      ("sentinel auth-pass ".toList.isPrefixOf line || "requirepass ".toList.isPrefixOf line))

/-- The text `sentinelConfigHash` hashes. -/
def hashedText (livePassword : Bool) (conf : Chars) : Chars :=
  ['\n'].intercalate ((conf.splitOn '\n').filter (keepsLine livePassword))

section

variable (vc : ValkeyCluster) (s : SentinelSpec)

/-- The text a restart of the Sentinels depends on (`ensureSentinelConfigMap`). -/
def restartText (password : Chars) : Chars :=
  hashedText (sentinelPasswordRotatesLive vc) (renderSentinelConf vc s password)

/-! ## What is kept of it -/

/-- The object has DNS names. -/
structure Named : Prop where
  name : ∀ c ∈ vc.name.toList, isBlank c = false
  namespace_ : ∀ c ∈ vc.namespace_.toList, isBlank c = false

/-- The directives that are neither timings nor about the password. -/
def otherLines : List Line :=
  headLines vc s ++ tailLines ++ tlsLines vc

end

section Lines

variable {vc : ValkeyCluster} {s : SentinelSpec} {password : Chars} (live : Bool)

theorem isWord_intText (n : Int) : IsWord (intText n) := by
  cases n with
  | ofNat m =>
    have htext : intText (Int.ofNat m) = decimal m := toList_toString_intCast m
    rw [htext]
    exact isWord_decimal m
  | negSucc m =>
    have htext : intText (Int.negSucc m) = '-' :: decimal (m + 1) := by
      show ("-" ++ Nat.repr (m + 1)).toList = _
      rw [String.toList_append, Nat.repr_eq_ofList_toDigits, String.toList_ofList,
        String.toList_ofList]
      rfl
    rw [htext]
    refine isWord_of_isDigit (List.cons_ne_nil _ _) fun c hc => ?_
    rcases List.mem_cons.mp hc with rfl | hc
    · exact .inr rfl
    · exact .inl (isDigit_of_mem_decimal hc)

theorem isWord_monitoredHost (h : Named vc) : IsWord (monitoredHost vc) := by
  have hlit : ∀ l ∈ ["-", "0", ".", "-headless", ".svc.cluster.local"],
      l.toList.all (fun c => !isBlank c) = true := by decide
  have hpart (l : String) (hl : l ∈ ["-", "0", ".", "-headless", ".svc.cluster.local"]) (c : Char)
      (hc : c ∈ l.toList) : isBlank c = false := by
    simpa using List.all_eq_true.mp (hlit l hl) c hc
  have htext : monitoredHost vc = vc.name.toList ++ "-".toList ++ "0".toList ++ ".".toList ++
      (vc.name.toList ++ "-headless".toList) ++ ".".toList ++ vc.namespace_.toList ++
      ".svc.cluster.local".toList := by
    simp only [monitoredHost, stsPodHost, statefulSetName, headlessServiceName, String.toList_append]
    rfl
  rw [htext]
  refine ⟨by simp, fun c hc => ?_⟩
  simp only [List.mem_append] at hc
  rcases hc with ((((((hc | hc) | hc) | hc) | hc | hc) | hc) | hc) | hc
  · exact h.name c hc
  · exact hpart "-" (by simp) c hc
  · exact hpart "0" (by simp) c hc
  · exact hpart "." (by simp) c hc
  · exact h.name c hc
  · exact hpart "-headless" (by simp) c hc
  · exact hpart "." (by simp) c hc
  · exact h.namespace_ c hc
  · exact hpart ".svc.cluster.local" (by simp) c hc

/-- Fields without a blank make a line. -/
theorem newline_not_mem_unwords {ws : List Chars} (h : ∀ w ∈ ws, IsWord w) : '\n' ∉ unwords ws := by
  intro hmem
  rcases mem_intercalate hmem with hsep | ⟨w, hw, hc⟩
  · cases hsep
  · exact newline_not_mem_of_isWord (h w hw) hc

theorem isWord_monitoredPort (vc : ValkeyCluster) : IsWord (monitoredPort vc) := by
  unfold monitoredPort
  split <;> decide

/-- The fields of the monitor line. -/
theorem isWord_monitorWords {host port : Chars} (hhost : IsWord host) (hport : IsWord port)
    (s : SentinelSpec) : ∀ w ∈ ["sentinel".toList, "monitor".toList, masterName, host, port,
      intText (sentinelQuorum s)], IsWord w := by
  simp only [List.forall_mem_cons]
  exact ⟨by decide, by decide, by decide, hhost, hport, isWord_intText _, List.forall_mem_nil _⟩

theorem newline_not_mem_headLines (h : Named vc) : ∀ l ∈ headLines vc s, '\n' ∉ l := by
  intro l hl
  simp only [headLines, List.mem_cons, List.not_mem_nil, or_false] at hl
  rcases hl with rfl | rfl | rfl
  · decide
  · decide
  · exact newline_not_mem_unwords
      (isWord_monitorWords (isWord_monitoredHost h) (isWord_monitoredPort vc) s)

theorem newline_not_mem_timingLines : ∀ l ∈ timingLines s, '\n' ∉ l := by
  intro l hl
  simp only [timingLines, List.mem_cons, List.not_mem_nil, or_false] at hl
  rcases hl with rfl | rfl
  · refine List.not_mem_append (by decide) (newline_not_mem_of_isWord (isWord_intText _))
  · refine List.not_mem_append (by decide) (newline_not_mem_of_isWord (isWord_intText _))

theorem newline_not_mem_passwordLines : ∀ l ∈ passwordLines password, '\n' ∉ l := by
  intro l hl
  simp only [passwordLines, List.mem_cons, List.not_mem_nil, or_false] at hl
  rcases hl with rfl | rfl
  · exact List.not_mem_append (by decide) (newline_not_mem_valkeyConfigArg password)
  · exact List.not_mem_append (by decide) (newline_not_mem_valkeyConfigArg password)

theorem newline_not_mem_authLines : ∀ l ∈ authLines password, '\n' ∉ l := by
  intro l hl
  unfold authLines at hl
  split at hl
  · rcases List.mem_cons.mp hl with rfl | hl
    · decide
    · exact newline_not_mem_passwordLines l hl
  · cases hl

theorem newline_not_mem_tlsLines : ∀ l ∈ tlsLines vc, '\n' ∉ l := by
  intro l hl
  unfold tlsLines at hl
  split at hl
  · simp only [List.mem_cons, List.not_mem_nil, or_false] at hl
    rcases hl with rfl | rfl | rfl | rfl | rfl | rfl | rfl <;> decide
  · cases hl

/-- No line of the configuration holds a newline: they are its lines. -/
theorem newline_not_mem_confLines (h : Named vc) : ∀ l ∈ confLines vc s password, '\n' ∉ l := by
  have htail : ∀ l ∈ tailLines, '\n' ∉ l := by decide
  intro l hl
  simp only [confLines, List.mem_append] at hl
  rcases hl with (((hl | hl) | hl) | hl) | hl
  · exact newline_not_mem_headLines h l hl
  · exact newline_not_mem_timingLines l hl
  · exact htail l hl
  · exact newline_not_mem_authLines l hl
  · exact newline_not_mem_tlsLines l hl

/-- What is kept of the lines a password adds. -/
def keptAuth (password : Chars) : List Line :=
  if password = [] then [] else authUserLine :: if live then [] else passwordLines password

/-- What the filter leaves. -/
theorem filter_confLines :
    (confLines vc s password).filter (keepsLine live) =
      (headLines vc s ++ tailLines) ++ (keptAuth live password ++ tlsLines vc) := by
  have hhead : (headLines vc s).filter (keepsLine live) = headLines vc s := by
    cases live <;> rfl
  have htiming : (timingLines s).filter (keepsLine live) = [] := by
    cases live <;> rfl
  have htail : tailLines.filter (keepsLine live) = tailLines := by
    cases live <;> rfl
  have htls : (tlsLines vc).filter (keepsLine live) = tlsLines vc := by
    unfold tlsLines
    split <;> cases live <;> rfl
  have hauth : (authLines password).filter (keepsLine live) = keptAuth live password := by
    unfold authLines keptAuth
    by_cases hp : password = []
    · rw [if_neg (not_not.mpr hp), if_pos hp]
      rfl
    · rw [if_pos hp, if_neg hp]
      cases live <;> rfl
  rw [confLines, List.filter_append, List.filter_append, List.filter_append, List.filter_append,
    hhead, htiming, htail, htls, hauth, List.append_nil, List.append_assoc]

/-- The text that is hashed: the lines that are left, and the empty piece after the last newline. -/
theorem hashedText_render (h : Named vc) (live : Bool) :
    hashedText live (renderSentinelConf vc s password) =
      ['\n'].intercalate ((confLines vc s password).filter (keepsLine live) ++ [[]]) := by
  have hlast : [([] : Line)].filter (keepsLine live) = [[]] := by
    cases live <;> rfl
  rw [hashedText, renderSentinelConf, splitOn_unlines (newline_not_mem_confLines h),
    List.filter_append, hlast]

end Lines

/-! ## Two renderings -/

section Two

variable {vc₁ vc₂ : ValkeyCluster} {s₁ s₂ : SentinelSpec} {p₁ p₂ : Chars}

/-- Two texts are the same exactly if the same lines are left. -/
theorem hashedText_eq_iff (h₁ : Named vc₁) (h₂ : Named vc₂) (live : Bool) :
    hashedText live (renderSentinelConf vc₁ s₁ p₁) = hashedText live (renderSentinelConf vc₂ s₂ p₂) ↔
      (confLines vc₁ s₁ p₁).filter (keepsLine live) =
        (confLines vc₂ s₂ p₂).filter (keepsLine live) := by
  have hfree {vc : ValkeyCluster} {s : SentinelSpec} {p : Chars} (h : Named vc) :
      ∀ l ∈ (confLines vc s p).filter (keepsLine live) ++ [[]], '\n' ∉ l := by
    intro l hl
    rcases List.mem_append.mp hl with hl | hl
    · exact newline_not_mem_confLines h l (List.mem_filter.mp hl).1
    · rw [List.mem_singleton.mp hl]
      exact List.not_mem_nil
  rw [hashedText_render h₁, hashedText_render h₂]
  constructor
  · intro h
    have hlines := congrArg (List.splitOn '\n') h
    rw [List.splitOn_intercalate '\n' (hfree h₁) (by simp),
      List.splitOn_intercalate '\n' (hfree h₂) (by simp)] at hlines
    exact List.append_cancel_right hlines
  · intro h
    rw [h]

/-- The lines of TLS do not start with the user. -/
theorem tlsLines_ne (vc : ValkeyCluster) (ls : List Line) : tlsLines vc ≠ authUserLine :: ls := by
  have hne : authUserLine ≠ "tls-port 26380".toList := by decide
  unfold tlsLines
  split
  · intro h
    exact hne (List.cons.inj h).1.symm
  · exact (List.cons_ne_nil _ _).symm

/-- The lines about the password are told from what follows them. -/
theorem keptAuth_append_iff (live : Bool) :
    keptAuth live p₁ ++ tlsLines vc₁ = keptAuth live p₂ ++ tlsLines vc₂ ↔
      keptAuth live p₁ = keptAuth live p₂ ∧ tlsLines vc₁ = tlsLines vc₂ := by
  refine ⟨fun h => ?_, fun h => by rw [h.1, h.2]⟩
  by_cases hp₁ : p₁ = [] <;> by_cases hp₂ : p₂ = []
  · rw [keptAuth, keptAuth, if_pos hp₁, if_pos hp₂] at h ⊢
    exact ⟨rfl, h⟩
  · rw [keptAuth, keptAuth, if_pos hp₁, if_neg hp₂] at h
    exact absurd h (tlsLines_ne vc₁ _)
  · rw [keptAuth, keptAuth, if_neg hp₁, if_pos hp₂] at h
    exact absurd h.symm (tlsLines_ne vc₂ _)
  · have hlen : (keptAuth live p₁).length = (keptAuth live p₂).length := by
      rw [keptAuth, keptAuth, if_neg hp₁, if_neg hp₂]
      cases live <;> rfl
    exact List.append_inj h hlen

/-- Two texts are the same exactly if the other directives are, and what is kept of the password. -/
theorem hashedText_iff (h₁ : Named vc₁) (h₂ : Named vc₂) (live : Bool) :
    hashedText live (renderSentinelConf vc₁ s₁ p₁) = hashedText live (renderSentinelConf vc₂ s₂ p₂) ↔
      otherLines vc₁ s₁ = otherLines vc₂ s₂ ∧ keptAuth live p₁ = keptAuth live p₂ := by
  have hfront : (headLines vc₁ s₁ ++ tailLines).length = (headLines vc₂ s₂ ++ tailLines).length := rfl
  rw [hashedText_eq_iff h₁ h₂, filter_confLines, filter_confLines]
  constructor
  · intro h
    obtain ⟨hhead, hrest⟩ := List.append_inj h hfront
    obtain ⟨hauth, htls⟩ := (keptAuth_append_iff live).mp hrest
    exact ⟨by rw [otherLines, otherLines, hhead, htls], hauth⟩
  · rintro ⟨hother, hauth⟩
    obtain ⟨hhead, htls⟩ := List.append_inj hother hfront
    rw [hhead, htls, hauth]

/-- Of a password that is rotated live only its being there is kept. -/
theorem keptAuth_live_iff : keptAuth true p₁ = keptAuth true p₂ ↔ (p₁ = [] ↔ p₂ = []) := by
  unfold keptAuth
  by_cases hp₁ : p₁ = [] <;> by_cases hp₂ : p₂ = [] <;> simp [hp₁, hp₂]

/-- Of a user's password everything is kept. -/
theorem keptAuth_user_iff : keptAuth false p₁ = keptAuth false p₂ ↔ p₁ = p₂ := by
  refine ⟨fun h => ?_, fun h => by rw [h]⟩
  unfold keptAuth at h
  by_cases hp₁ : p₁ = [] <;> by_cases hp₂ : p₂ = []
  · rw [hp₁, hp₂]
  · rw [if_pos hp₁, if_neg hp₂] at h
    cases h
  · rw [if_neg hp₁, if_pos hp₂] at h
    cases h
  · rw [if_neg hp₁, if_neg hp₂] at h
    have hlines : passwordLines p₁ = passwordLines p₂ := (List.cons.inj h).2
    exact valkeyConfigArg_injective (List.append_cancel_left (List.cons.inj hlines).1)

end Two

/-- **What restarts the Sentinels.**  For any two renderings, of any two specs and passwords: with
    the operator's password the hashed text is the same exactly if the directives are that are
    neither timings nor about the password, and there is a password in both or in none; with a
    user's password, exactly if those directives and the passwords are. -/
theorem restart_noninterference (vc₁ vc₂ : ValkeyCluster) (s₁ s₂ : SentinelSpec) (p₁ p₂ : Chars)
    (h₁ : Named vc₁) (h₂ : Named vc₂) :
    (sentinelPasswordRotatesLive vc₁ = true → sentinelPasswordRotatesLive vc₂ = true →
      (restartText vc₁ s₁ p₁ = restartText vc₂ s₂ p₂ ↔
        otherLines vc₁ s₁ = otherLines vc₂ s₂ ∧ (p₁ = [] ↔ p₂ = []))) ∧
    (sentinelPasswordRotatesLive vc₁ = false → sentinelPasswordRotatesLive vc₂ = false →
      (restartText vc₁ s₁ p₁ = restartText vc₂ s₂ p₂ ↔
        otherLines vc₁ s₁ = otherLines vc₂ s₂ ∧ p₁ = p₂)) := by
  constructor
  · intro hlive₁ hlive₂
    rw [restartText, restartText, hlive₁, hlive₂, hashedText_iff h₁ h₂, keptAuth_live_iff]
  · intro huser₁ huser₂
    rw [restartText, restartText, huser₁, huser₂, hashedText_iff h₁ h₂, keptAuth_user_iff]

/-- A Sentinel cluster with these timings, and the password its user's or the operator's. -/
def timed (ms : Int) (secret : String) : ValkeyCluster × SentinelSpec :=
  let s : SentinelSpec := { replicas := 3, downAfterMilliseconds := ms, failoverTimeout := 4 * ms }
  ({ name := "s", namespace_ := "ns", spec :=
      { topology := .sentinel, sentinel := some s,
        auth := some { enabled := some true, existingSecret := secret } } }, s)

theorem restart_noninterference_timed :
    restartText (timed 2000 "").1 (timed 2000 "").2 "a\nrequirepass b".toList =
        restartText (timed 9000 "").1 (timed 9000 "").2 "c".toList ∧
      restartText (timed 2000 "").1 (timed 2000 "").2 [] ≠
        restartText (timed 2000 "").1 (timed 2000 "").2 "c".toList ∧
      restartText (timed 2000 "mine").1 (timed 2000 "mine").2 "a".toList ≠
        restartText (timed 2000 "mine").1 (timed 2000 "mine").2 "b".toList := by
  have hnamed (ms : Int) (secret : String) : Named (timed ms secret).1 := by
    have hname : "s".toList.all (fun c => !isBlank c) = true := by decide
    have hns : "ns".toList.all (fun c => !isBlank c) = true := by decide
    exact ⟨fun c hc => by simpa using List.all_eq_true.mp hname c hc,
      fun c hc => by simpa using List.all_eq_true.mp hns c hc⟩
  have hrule (ms ms' : Int) (secret secret' : String) (p p' : Chars) :=
    restart_noninterference (timed ms secret).1 (timed ms' secret').1 (timed ms secret).2
      (timed ms' secret').2 p p' (hnamed ms secret) (hnamed ms' secret')
  refine ⟨((hrule 2000 9000 "" "" _ _).1 rfl rfl).mpr ⟨rfl, by decide⟩, fun h => ?_, fun h => ?_⟩
  · exact absurd ((hrule 2000 2000 "" "" _ _).1 rfl rfl |>.mp h).2 (by decide)
  · exact absurd ((hrule 2000 2000 "mine" "mine" _ _).2 rfl rfl |>.mp h).2 (by decide)

end Wellcake.Sentinel
