/-
  Passwords in configuration files: what a Valkey server reads (`ConfigLine`) of what is written.

  Three writers put a password between double quotes.

      valkeyConfigArg      Go: every byte that needs it is escaped, control bytes as two hex digits
      renderAuthConfig     Go: `requirepass`, `masterauth`, both with `valkeyConfigArg`
      valkey_config_arg    awk, in the init script: record by record, backslash and quote escaped,
                           `\n` between two records; then `$(…)`, then `echo`

  The Go writers are right about every password: what is read is the
  password, and the directives of the file are those of the same file with any other password.

  The script is NOT.  Two steps of it lose something:

    awk     sees records, and a newline that ends the text ends the last record: it starts none.
    echo    POSIX leaves a text with a backslash to the shell, and the one of dash reads `\\` as ONE
            backslash and `\n` as a newline.  What awk has escaped is unescaped again before the
            server reads it.

  What is left of it: an `echo` that leaves backslashes alone and a
  password that does not end with a newline, or any `echo` and nothing to escape.
-/
import Wellcake.Controller.SentinelConf

namespace Wellcake.ConfigQuoting

open Text Shell ConfigLine Sentinel

/-! ## The rendered configurations -/

section

variable (vc : ValkeyCluster) (password : Chars)

/-- The lines of `renderAuthConfig`. -/
def authConfigLines : List Line :=
  if password = [] then []
  else
    ["requirepass ".toList ++ valkeyConfigArg password,
      "masterauth ".toList ++ valkeyConfigArg password] ++
    if UsersAcl.topologyReplicates vc.spec.topology then
      ["masteruser ".toList ++ UsersAcl.replicationACLUser.toList]
    else []

/-- `renderAuthConfig`: what it adds to `valkey.conf`. -/
def renderAuthConfig : Chars :=
  unlines (authConfigLines vc password)

/-- The directives `renderAuthConfig` is there for. -/
def authDirectives : List (List Chars) :=
  [["requirepass".toList, password], ["masterauth".toList, password]] ++
    if UsersAcl.topologyReplicates vc.spec.topology then
      [["masteruser".toList, "replicator".toList]]
    else []

/-- The directives of `renderSentinelConf` that come with a password. -/
def sentinelAuthDirectives : List (List Chars) :=
  [["sentinel".toList, "auth-user".toList, "mymaster".toList, "sentinel-user".toList],
    ["sentinel".toList, "auth-pass".toList, "mymaster".toList, password],
    ["requirepass".toList, password]]

end

section Render

variable {vc : ValkeyCluster} {password : Chars}

/-- A directive whose last argument is quoted is read as it was meant. -/
theorem readLine_valkeyConfigArg (ws : List Chars)
    (hws : ∀ w ∈ ws, w ≠ [] ∧ w.all isPlain = true)
    (hhead : (blankAfter ws).head?.any (fun c => !isTrimmed c && c != '#') = true) :
    readLine (blankAfter ws ++ valkeyConfigArg password) = some (some (ws ++ [password])) := by
  refine readLine_quoted ws hws hhead (fun hnul => ?_) (quoted_valkeyConfigArg password)
  obtain ⟨c, -, hc⟩ := List.mem_flatMap.mp hnul
  exact absurd (printable_escapeByte c _ hc) (by decide)

theorem newline_not_mem_authConfigLines : ∀ l ∈ authConfigLines vc password, '\n' ∉ l := by
  have hquoted (front : Chars) (hfront : '\n' ∉ front) :
      '\n' ∉ front ++ valkeyConfigArg password :=
    List.not_mem_append hfront (newline_not_mem_valkeyConfigArg password)
  unfold authConfigLines
  split
  · exact List.forall_mem_nil _
  · split
    · simp only [List.cons_append, List.nil_append, List.forall_mem_cons]
      exact ⟨hquoted _ (by decide), hquoted _ (by decide), by decide, List.forall_mem_nil _⟩
    · simp only [List.append_nil, List.forall_mem_cons]
      exact ⟨hquoted _ (by decide), hquoted _ (by decide), List.forall_mem_nil _⟩

theorem readLine_authConfigLines (hne : password ≠ []) :
    (authConfigLines vc password).filterMap readLine = (authDirectives vc password).map some := by
  have hrequire : readLine ("requirepass ".toList ++ valkeyConfigArg password) =
      some (some ["requirepass".toList, password]) :=
    readLine_valkeyConfigArg ["requirepass".toList] (by decide) (by decide)
  have hmaster : readLine ("masterauth ".toList ++ valkeyConfigArg password) =
      some (some ["masterauth".toList, password]) :=
    readLine_valkeyConfigArg ["masterauth".toList] (by decide) (by decide)
  have huser : readLine ("masteruser ".toList ++ UsersAcl.replicationACLUser.toList) =
      some (some ["masteruser".toList, "replicator".toList]) := by decide +kernel
  rw [authConfigLines, if_neg hne, authDirectives, List.filterMap_append, List.map_append]
  congr 1
  · rw [List.filterMap_cons_some hrequire, List.filterMap_cons_some hmaster]
    rfl
  · split
    · rw [List.filterMap_cons_some huser]
      rfl
    · rfl

theorem readLine_authLines (hne : password ≠ []) :
    (authLines password).filterMap readLine = (sentinelAuthDirectives password).map some := by
  have huser : readLine authUserLine = some (some
      ["sentinel".toList, "auth-user".toList, "mymaster".toList, "sentinel-user".toList]) := by
    decide +kernel
  have hpass : readLine ("sentinel auth-pass mymaster ".toList ++ valkeyConfigArg password) =
      some (some ["sentinel".toList, "auth-pass".toList, "mymaster".toList, password]) :=
    readLine_valkeyConfigArg ["sentinel".toList, "auth-pass".toList, "mymaster".toList] (by decide)
      (by decide)
  have hrequire : readLine ("requirepass ".toList ++ valkeyConfigArg password) =
      some (some ["requirepass".toList, password]) :=
    readLine_valkeyConfigArg ["requirepass".toList] (by decide) (by decide)
  rw [authLines, if_pos hne, passwordLines, List.filterMap_cons_some huser,
    List.filterMap_cons_some hpass, List.filterMap_cons_some hrequire]
  rfl

end Render

/-- **Quoting is read back.**  Every value is read as the one argument it is and leaves no control
    byte behind; and whatever a password is made of, the directives of a file it is rendered into are
    the ones meant, with the password in its place, and those of the other lines. -/
theorem config_quoting_round_trip (v : Chars) :
    splitArgs (valkeyConfigArg v) = some [v] ∧ (∀ c ∈ valkeyConfigArg v, Printable c) ∧
    (v ≠ [] → ∀ (vc : ValkeyCluster),
      (∀ before after : List Line, (∀ l ∈ before, '\n' ∉ l) → (∀ l ∈ after, '\n' ∉ l) →
        directives (unlines before ++ renderAuthConfig vc v ++ unlines after) =
          before.filterMap readLine ++ (authDirectives vc v).map some ++
            after.filterMap readLine) ∧
      ∀ s, Named vc → directives (renderSentinelConf vc s v) =
        (headLines vc s ++ timingLines s ++ tailLines).filterMap readLine ++
          (sentinelAuthDirectives v).map some ++ (tlsLines vc).filterMap readLine) := by
  refine ⟨?_, printable_valkeyConfigArg v, fun hne vc => ⟨fun before after hb ha => ?_, ?_⟩⟩
  · refine splitArgs_quoted [] (fun _ hw => (nomatch hw)) (fun hnul => ?_)
      (quoted_valkeyConfigArg v)
    exact absurd (printable_valkeyConfigArg v _ (.tail _ hnul)) (by decide)
  · have hlines : ∀ l ∈ before ++ authConfigLines vc v ++ after, '\n' ∉ l := by
      simp only [List.forall_mem_append]
      exact ⟨⟨hb, newline_not_mem_authConfigLines⟩, ha⟩
    rw [renderAuthConfig, ← unlines_append, ← unlines_append, directives_unlines hlines,
      List.filterMap_append, List.filterMap_append, readLine_authConfigLines hne]
  · intro s hnamed
    rw [renderSentinelConf, directives_unlines (newline_not_mem_confLines hnamed), confLines,
      List.filterMap_append, List.filterMap_append, readLine_authLines hne]

/-- A password of two lines, the second of which reads like a directive, is no directive. -/
theorem config_quoting_of_two_lines :
    directives (renderAuthConfig
        { name := "c", namespace_ := "ns", spec := { topology := .standalone } }
        "p\nport 0\x01f".toList) =
      [some ["requirepass".toList, "p\nport 0\x01f".toList],
        some ["masterauth".toList, "p\nport 0\x01f".toList]] := by
  have hread := ((config_quoting_round_trip "p\nport 0\x01f".toList).2.2 (by decide)
    { name := "c", namespace_ := "ns", spec := { topology := .standalone } }).1 [] [] (fun _ hl => (nomatch hl))
    (fun _ hl => (nomatch hl))
  have htext (t : Chars) : unlines [] ++ t ++ unlines [] = t := List.append_nil t
  rw [htext] at hread
  exact hread

/-! ## The init script's `valkey_config_arg` -/

/-- The two substitutions on one record: `gsub(/\\/, "\\\\")`, then `gsub(/"/, "\\\"")`. -/
def escapeRecord (record : Line) : Line :=
  (record.flatMap fun c => if c = '\\' then ['\\', '\\'] else [c]).flatMap fun c =>
    if c = '"' then ['\\', '"'] else [c]

/-- `valkey_config_arg`: what awk prints. -/
def awkConfigArg (input : Chars) : Chars :=
  '"' :: (['\\', 'n'].intercalate ((lines input).map escapeRecord) ++ ['"', '\n'])

/-- `$(…)`: the newlines at the end are dropped. -/
def substitute (output : Chars) : Chars := (output.reverse.dropWhile (· == '\n')).reverse

/-- The `echo` of a shell.  POSIX says what it prints of a text without a backslash (and not of
    the form of an option). -/
structure Echo where
  print : Chars → Chars
  plain : ∀ s, '\\' ∉ s → s.head? ≠ some '-' → print s = s ++ ['\n']

/-- What the script appends to `runtime.conf` for `SOURCE_PASSWORD`. -/
def masterauthText (echo : Echo) (password : Chars) : Chars :=
  if password ≠ [] then
    echo.print ("masterauth ".toList ++ substitute (awkConfigArg password))
  else []

section Script

variable {password : Chars} (c : Char)

/-- What becomes of one character: the two substitutions, and `\n` between two records. -/
def scriptEscape : Chars :=
  if c = '\\' ∨ c = '"' then ['\\', c] else if c = '\n' then ['\\', 'n'] else [c]

/-- A record has no newline in it. -/
theorem escapeRecord_eq {record : Line} (h : '\n' ∉ record) :
    escapeRecord record = record.flatMap scriptEscape := by
  rw [escapeRecord, List.flatMap_assoc]
  refine List.flatMap_congr fun c hc => ?_
  have hnewline : c ≠ '\n' := fun heq => h (heq ▸ hc)
  by_cases hbackslash : c = '\\'
  · subst hbackslash
    rfl
  · by_cases hquote : c = '"'
    · subst hquote
      rfl
    · simp [scriptEscape, hbackslash, hquote, hnewline]

theorem escape_records {ls : List Line} (h : ∀ l ∈ ls, '\n' ∉ l) :
    ['\\', 'n'].intercalate (ls.map escapeRecord) =
      (['\n'].intercalate ls).flatMap scriptEscape := by
  induction ls with
  | nil => rfl
  | cons l ls ih =>
    obtain ⟨hl, hls⟩ := List.forall_mem_cons.mp h
    cases ls with
    | nil =>
      rw [List.map_singleton, List.intercalate_singleton, List.intercalate_singleton,
        escapeRecord_eq hl]
    | cons k ks =>
      rw [List.map_cons, List.map_cons, List.intercalate_cons_cons, ← List.map_cons, ih hls,
        List.intercalate_cons_cons, List.flatMap_append, List.flatMap_append, escapeRecord_eq hl]
      rfl

section

variable (hne : password ≠ []) (hlast : password.getLast? ≠ some '\n')

include hne hlast

/-- Text that does not end with a newline is its records, joined. -/
theorem intercalate_lines :
    ['\n'].intercalate (lines password) = password := by
  have hjoin : ['\n'].intercalate (password.splitOn '\n') = password := List.intercalate_splitOn _
  unfold lines
  simp only
  split
  next hempty =>
    obtain ⟨init, hinit⟩ := List.getLast?_eq_some_iff.mp hempty
    rw [hinit, ← unlines_eq_intercalate] at hjoin
    have hinit' : init ≠ [] := by
      rintro rfl
      exact hne hjoin.symm
    rw [← hjoin, unlines_eq_append hinit', List.getLast?_concat] at hlast
    exact absurd rfl hlast
  next => exact hjoin

/-- **What `$(…)` holds**, for a password that does not end with a newline. -/
theorem substitute_awkConfigArg :
    substitute (awkConfigArg password) = '"' :: (password.flatMap scriptEscape ++ ['"']) := by
  have hrecords := escape_records fun l (hl : l ∈ lines password) => newline_not_mem_of_mem_lines hl
  rw [intercalate_lines hne hlast] at hrecords
  have hsplit : awkConfigArg password =
      ('"' :: password.flatMap scriptEscape ++ ['"']) ++ ['\n'] := by
    simp [awkConfigArg, hrecords]
  rw [substitute, hsplit, List.reverse_append, List.reverse_singleton, List.singleton_append,
    List.dropWhile_cons_of_pos rfl, List.reverse_append, List.reverse_singleton,
    List.singleton_append, List.dropWhile_cons_of_neg (by decide), List.reverse_cons,
    List.reverse_reverse, List.cons_append]

end

theorem quoted_scriptEscape (current s : Chars) :
    quoted current (scriptEscape c ++ s) = quoted (current ++ [c]) s := by
  unfold scriptEscape
  split
  next h => rcases h with rfl | rfl <;> exact quoted_escape (by decide)
  next h =>
    split
    next hc =>
      subst hc
      exact quoted_escape (by decide)
    next => exact quoted_self (fun hc => h (.inl hc)) fun hc => h (.inr hc)

theorem mem_scriptEscape {c d : Char} (h : d ∈ scriptEscape c) :
    d = c ∧ d ≠ '\n' ∨ d = '\\' ∨ d = 'n' := by
  unfold scriptEscape at h
  grind

end Script

/-- An `echo` that prints what it is given. -/
def plainEcho : Echo where
  print s := s ++ ['\n']
  plain _ _ _ := rfl

/-- The sequences of one character that an `echo` with escapes knows; `\c` and octal numbers apart. -/
def unescapeEcho : Chars → Chars
  | '\\' :: c :: s =>
    match ([('\\', '\\'), ('a', '\x07'), ('b', '\x08'), ('f', '\x0c'), ('n', '\n'), ('r', '\r'),
        ('t', '\t'), ('v', '\x0b')] : List (Char × Char)).lookup c with
    | some e => e :: unescapeEcho s
    | none => '\\' :: c :: unescapeEcho s
  | c :: s => c :: unescapeEcho s
  | [] => []

theorem unescapeEcho_self {s : Chars} (hs : '\\' ∉ s) : unescapeEcho s = s := by
  induction s with
  | nil => rfl
  | cons c s ih =>
    rw [unescapeEcho, ih fun h => hs (List.mem_cons_of_mem c h)]
    exact fun d t hc _ => hs (hc ▸ (.head _))

/-- The `echo` of dash. -/
def escapingEcho : Echo where
  print s := unescapeEcho s ++ ['\n']
  plain _ hs _ := congrArg (· ++ ['\n']) (unescapeEcho_self hs)

end Wellcake.ConfigQuoting
