/-
  How a Valkey server reads a line of its configuration file: the file is cut at its newlines, each
  line is trimmed, and a line that is neither empty nor a comment is split into arguments the way
  `sdssplitargs` splits them.

      state     next character                  what is done
      between   white space                     skipped
      plain     blank                           the argument ends
                '"'  or  '\''                   the rest of the argument is quoted
                anything else                   stands for itself
      "…"       '\' 'x' and two hex digits      the byte of that value
                '\' and n r t b a               the control character
                '\' and anything else           that character
                '"' before a space or the end   the argument ends
                '"' before anything else        ERROR
      '…'       '\' '\''                        the quote
                '\'' before a space or the end  the argument ends
      "…" '…'   end of the line                 ERROR

  A writer is right about this reader as soon as its encoding of ONE character is read as that
  character, whatever follows it (`quoted_flatMap`): an `\x0` with more hex digits after it is the
  case where that matters.
-/
import Wellcake.Base.Shell

namespace ConfigLine

open Text Shell

/-! ## The reader -/

/-- C's `isspace`. -/
def isSpaceC (c : Char) : Bool := c == ' ' || (decide (9 ≤ c.toNat) && decide (c.toNat ≤ 13))

/-- `is_hex_digit`. -/
def isHexDigit (c : Char) : Bool :=
  c.isDigit || "abcdef".toList.contains c || "ABCDEF".toList.contains c

/-- `hex_digit_to_int`. -/
def hexValue (c : Char) : Nat :=
  if c.isDigit then c.toNat - '0'.toNat
  else if "abcdef".toList.contains c then c.toNat - 'a'.toNat + 10
  else c.toNat - 'A'.toNat + 10

/-- The character a backslash and `c` stand for between double quotes. -/
def unescape : Char → Char
  | 'n' => '\n'
  | 'r' => '\r'
  | 't' => '\t'
  | 'b' => '\x08'
  | 'a' => '\x07'
  | c => c

/-- A closing quote is followed by a space or by nothing. -/
def endsArg (s : Chars) : Bool := s.head?.all isSpaceC

/-- The rest of an argument between double quotes, and the text after it. -/
def quoted (current : Chars) : Chars → Option (Chars × Chars)
  | '\\' :: 'x' :: a :: b :: s =>
    if isHexDigit a && isHexDigit b then
      quoted (current ++ [Char.ofNat (16 * hexValue a + hexValue b)]) s
    else quoted (current ++ ['x']) (a :: b :: s)
  | '\\' :: c :: s => quoted (current ++ [unescape c]) s
  | '"' :: s => if endsArg s then some (current, s) else none
  | c :: s => quoted (current ++ [c]) s
  | [] => none

/-- The rest of an argument between single quotes, and the text after it. -/
def singleQuoted (current : Chars) : Chars → Option (Chars × Chars)
  | '\\' :: '\'' :: s => singleQuoted (current ++ ['\'']) s
  | '\'' :: s => if endsArg s then some (current, s) else none
  | c :: s => singleQuoted (current ++ [c]) s
  | [] => none

/-- An argument, and the text after it. -/
def argument (current : Chars) : Chars → Option (Chars × Chars)
  | [] => some (current, [])
  | c :: s =>
    if c == ' ' || c == '\n' || c == '\r' || c == '\t' then some (current, s)
    else if c == '"' then quoted current s
    else if c == '\'' then singleQuoted current s
    else argument (current ++ [c]) s

/-- The arguments of a text; every argument takes a character of it, so `fuel` bounds them. -/
def arguments : Nat → Chars → Option (List Chars)
  | 0, _ => none
  | fuel + 1, text =>
    match text.dropWhile isSpaceC with
    | [] => some []
    | c :: s => (argument [] (c :: s)).bind fun (arg, rest) => (arguments fuel rest).map (arg :: ·)

/-- `sdssplitargs`: a NUL ends the text. -/
def splitArgs (line : Chars) : Option (List Chars) :=
  arguments (line.length + 1) (line.takeWhile (· != '\x00'))

/-- What a line is trimmed of. -/
def isTrimmed (c : Char) : Bool := c == ' ' || c == '\t' || c == '\r' || c == '\n'

/-- `sdstrim`. -/
def trim (line : Line) : Line := ((line.dropWhile isTrimmed).reverse.dropWhile isTrimmed).reverse

/-- The directive of a line, if there is one: `some none` is a line the server does not start on. -/
def readLine (line : Line) : Option (Option (List Chars)) :=
  if (trim line).head?.any (· != '#') then some (splitArgs (trim line)) else none

/-- The directives of a configuration. -/
def directives (conf : Chars) : List (Option (List Chars)) := (conf.splitOn '\n').filterMap readLine

/-! ## What is read of what was written -/

section Quoted

variable {current s : Chars} {c : Char}

theorem quoted_escape (h : c ≠ 'x') :
    quoted current ('\\' :: c :: s) = quoted (current ++ [unescape c]) s := by
  rw [quoted]
  exact fun _ _ _ hc => absurd hc h

theorem quoted_hex {a b : Char} (ha : isHexDigit a = true) (hb : isHexDigit b = true) :
    quoted current ('\\' :: 'x' :: a :: b :: s) =
      quoted (current ++ [Char.ofNat (16 * hexValue a + hexValue b)]) s := by
  rw [quoted, if_pos]
  rw [ha, hb]
  rfl

theorem quoted_self (hbackslash : c ≠ '\\') (hquote : c ≠ '"') :
    quoted current (c :: s) = quoted (current ++ [c]) s := by
  rw [quoted]
  · exact fun _ _ _ hc => absurd hc hbackslash
  · exact fun _ _ hc => absurd hc hbackslash
  · exact fun hc => absurd hc hquote

/-- **A text whose characters are read back one by one is read back**, whatever follows each. -/
theorem quoted_flatMap {encode : Char → Chars} {v : Chars}
    (h : ∀ c ∈ v, ∀ current s, quoted current (encode c ++ s) = quoted (current ++ [c]) s) :
    quoted current (v.flatMap encode ++ s) = quoted (current ++ v) s := by
  induction v generalizing current with
  | nil => rw [List.flatMap_nil, List.nil_append, List.append_nil]
  | cons c v ih =>
    rw [List.flatMap_cons, List.append_assoc, h c (.head _),
      ih fun d hd => h d (List.mem_cons_of_mem c hd), List.append_assoc, List.singleton_append]

theorem quoted_close (h : endsArg s = true) : quoted current ('"' :: s) = some (current, s) := by
  simp [quoted, h]

end Quoted

/-- The characters an unquoted argument is made of. -/
def isPlain (c : Char) : Bool := !isSpaceC c && c != '"' && c != '\'' && c != '\x00'

theorem ne_of_isPlain {c d : Char} (hc : isPlain c = true) (hd : isPlain d = false) : c ≠ d := by
  rintro rfl
  cases hc.symm.trans hd

theorem argument_plain {current w s : Chars} (h : w.all isPlain = true) :
    argument current (w ++ ' ' :: s) = some (current ++ w, s) := by
  induction w generalizing current with
  | nil => simp [argument]
  | cons c w ih =>
    obtain ⟨hc, hw⟩ := Bool.and_eq_true_iff.mp h
    have hne : ∀ d ∈ [' ', '\n', '\r', '\t', '"', '\''], c ≠ d := fun d hd =>
      ne_of_isPlain hc ((by decide : ∀ d ∈ [' ', '\n', '\r', '\t', '"', '\''], isPlain d = false) d hd)
    simp only [List.forall_mem_cons] at hne
    have hself : argument current (c :: (w ++ ' ' :: s)) =
        argument (current ++ [c]) (w ++ ' ' :: s) := by
      simp [argument, hne]
    rw [List.cons_append, hself, ih hw, List.append_assoc, List.singleton_append]

/-- A text that does not start with white space starts with an argument. -/
theorem arguments_succ {c : Char} {s : Chars} (hc : isSpaceC c = false) (fuel : Nat) :
    arguments (fuel + 1) (c :: s) =
      (argument [] (c :: s)).bind fun (arg, rest) => (arguments fuel rest).map (arg :: ·) := by
  rw [arguments, List.dropWhile_cons_of_neg (by simp [hc])]

/-- The words that start a directive are its first arguments. -/
theorem arguments_blankAfter {ws : List Chars} (h : ∀ w ∈ ws, w ≠ [] ∧ w.all isPlain = true)
    (fuel : Nat) (s : Chars) :
    arguments (ws.length + fuel) (blankAfter ws ++ s) = (arguments fuel s).map (ws ++ ·) := by
  induction ws with
  | nil =>
    rw [List.length_nil, Nat.zero_add]
    exact Option.map_id'.symm
  | cons w ws ih =>
    obtain ⟨⟨hne, hw⟩, hws⟩ := List.forall_mem_cons.mp h
    obtain ⟨c, t, rfl⟩ := List.exists_cons_of_ne_nil hne
    have hc : isSpaceC c = false := by
      have hplain := (Bool.and_eq_true_iff.mp hw).1
      simp only [isPlain, Bool.and_eq_true, Bool.not_eq_true'] at hplain
      exact hplain.1.1.1
    have htext : blankAfter ((c :: t) :: ws) ++ s = c :: t ++ ' ' :: (blankAfter ws ++ s) := by
      simp [blankAfter]
    have hfuel : ((c :: t) :: ws).length + fuel = ws.length + fuel + 1 := by
      rw [List.length_cons]
      omega
    rw [htext, hfuel, List.cons_append, arguments_succ hc, ← List.cons_append, argument_plain hw]
    show (arguments (ws.length + fuel) (blankAfter ws ++ s)).map _ = _
    rw [ih hws, Option.map_map]
    rfl

section

variable (ws : List Chars) {v s : Chars}

/-- A quoted argument that ends its line is the last one. -/
theorem arguments_quoted (h : quoted [] s = some (v, [])) (fuel : Nat) :
    arguments (fuel + 2) ('"' :: s) = some [v] := by
  rw [arguments_succ rfl]
  show (quoted [] s).bind _ = _
  rw [h]
  rfl

/-- **A line of words and one quoted argument is read as those.** -/
theorem splitArgs_quoted (hws : ∀ w ∈ ws, w ≠ [] ∧ w.all isPlain = true) (hnul : '\x00' ∉ s)
    (h : quoted [] s = some (v, [])) :
    splitArgs (blankAfter ws ++ '"' :: s) = some (ws ++ [v]) := by
  have hnone : '\x00' ∉ blankAfter ws ++ '"' :: s := by
    intro hmem
    rcases List.mem_append.mp hmem with hmem | hmem
    · obtain ⟨w, hw, hc⟩ := List.mem_flatMap.mp hmem
      rcases List.mem_append.mp hc with hc | hc
      · exact ne_of_isPlain (List.all_eq_true.mp (hws w hw).2 _ hc) (by decide) rfl
      · cases List.mem_singleton.mp hc
    · rcases List.mem_cons.mp hmem with hq | hmem
      · cases hq
      · exact hnul hmem
  have hall : (blankAfter ws ++ '"' :: s).takeWhile (· != '\x00') = blankAfter ws ++ '"' :: s :=
    List.takeWhile_eq_self_iff.mpr fun c hc => by
      rw [bne_iff_ne]
      rintro rfl
      exact hnone hc
  have hlen : ws.length ≤ (blankAfter ws).length := by
    clear hws hnone hall
    induction ws with
    | nil => exact Nat.zero_le _
    | cons w ws ih =>
      simp only [blankAfter, List.flatMap_cons, List.length_append, List.length_cons] at ih ⊢
      omega
  have hne : s ≠ [] := by
    rintro rfl
    cases h
  obtain ⟨fuel, hfuel⟩ : ∃ fuel, (blankAfter ws ++ '"' :: s).length + 1 = ws.length + (fuel + 2) := by
    refine ⟨(blankAfter ws).length - ws.length + s.length, ?_⟩
    rw [List.length_append, List.length_cons]
    omega
  rw [splitArgs, hall, hfuel, arguments_blankAfter hws, arguments_quoted h]
  rfl

/-! ## Lines -/

theorem trim_eq_self {c d : Char} {m : Chars} (hc : isTrimmed c = false) (hd : isTrimmed d = false) :
    trim (c :: (m ++ [d])) = c :: (m ++ [d]) := by
  rw [trim, List.dropWhile_cons_of_neg (by simp [hc]), ← List.cons_append, List.reverse_append,
    List.reverse_singleton, List.singleton_append, List.dropWhile_cons_of_neg (by simp [hd]),
    List.reverse_cons, List.reverse_reverse]

/-- **A line of words and one quoted argument is that directive.** -/
theorem readLine_quoted (hws : ∀ w ∈ ws, w ≠ [] ∧ w.all isPlain = true)
    (hhead : (blankAfter ws).head?.any (fun c => !isTrimmed c && c != '#') = true)
    (hnul : '\x00' ∉ s) (h : quoted [] (s ++ ['"']) = some (v, [])) :
    readLine (blankAfter ws ++ '"' :: (s ++ ['"'])) = some (some (ws ++ [v])) := by
  have hargs := splitArgs_quoted ws hws (List.not_mem_append hnul (by decide)) h
  generalize htext : blankAfter ws = front at hhead hargs ⊢
  cases front with
  | nil => cases hhead
  | cons c t =>
    obtain ⟨hc, hhash⟩ := Bool.and_eq_true_iff.mp hhead
    have hline : c :: t ++ '"' :: (s ++ ['"']) = c :: ((t ++ '"' :: s) ++ ['"']) := by
      simp
    have htrim : trim (c :: t ++ '"' :: (s ++ ['"'])) = c :: t ++ '"' :: (s ++ ['"']) := by
      rw [hline]
      exact trim_eq_self (Bool.not_eq_true' _ ▸ hc) rfl
    rw [readLine, htrim, hargs]
    exact if_pos hhash

end

/-- The directives of a text that was written line by line. -/
theorem directives_unlines {ls : List Line} (h : ∀ l ∈ ls, '\n' ∉ l) :
    directives (unlines ls) = ls.filterMap readLine := by
  rw [directives, splitOn_unlines h, List.filterMap_append]
  exact List.append_nil _

end ConfigLine
