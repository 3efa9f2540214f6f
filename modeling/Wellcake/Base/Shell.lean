/-
  The text tools that a POSIX shell script pipes its data through, over lines of characters:
  `tr`, `sort -n`, and what `awk` sees of its input — records with their two counters, fields,
  numbers, and the patterns that ask for digits, for a piece of text, or for one with dots in it.

  A stream between two commands is its list of lines (`print` ends each with a newline), so a
  pipeline is a composition of functions on lists of lines.  Every tool has the one lemma that
  takes a text it was WRITTEN from back to what was written: fields that were joined with blanks
  (`words_unwords`), lines that were joined with newlines (`lines_join`), a number that was printed
  in decimal (`number_decimal`), numbers that were printed and then sorted (`sortN_decimal`).
-/
import Mathlib.Data.List.Sort
import Mathlib.Data.List.Infix
import Wellcake.Base.Text

namespace Shell

open Text

/-- A line of a stream, without its newline. -/
abbrev Line := Chars

/-! ## Numbers -/

/-- A number as `print` and `printf` write it. -/
def decimal (n : Nat) : Line := Nat.toDigits 10 n

/-- The number awk takes a text for: the value of the digits it starts with. -/
def number (s : Line) : Nat := Nat.ofDigitChars 10 (s.takeWhile Char.isDigit) 0

variable {c : Char} {s w : Chars} {ws : List Chars} {ls : List Line}

theorem isDigit_of_mem_decimal {n : Nat} (h : c ∈ decimal n) : c.isDigit = true :=
  Nat.isDigit_of_mem_toDigits (by decide) (by decide) h

/-- A natural number prints the same as an `Int`. -/
theorem toList_toString_intCast (n : Nat) : (toString (n : Int)).toList = decimal n := by
  show (toString n).toList = decimal n
  rw [Nat.toString_eq_repr, Nat.repr_eq_ofList_toDigits, String.toList_ofList]
  rfl

theorem decimal_ne_nil (n : Nat) : decimal n ≠ [] := Nat.toDigits_ne_nil

theorem not_mem_decimal (hc : c.isDigit = false) (n : Nat) : c ∉ decimal n := by
  intro h
  rw [isDigit_of_mem_decimal h] at hc
  cases hc

@[simp] theorem number_decimal (n : Nat) : number (decimal n) = n := by
  have hall : (decimal n).takeWhile Char.isDigit = decimal n :=
    List.takeWhile_eq_self_iff.mpr fun c hc => isDigit_of_mem_decimal hc
  rw [number, hall]
  exact Nat.ofDigitChars_toDigits (by decide) (by decide)

theorem decimal_injective : Function.Injective decimal := by
  intro m n h
  have hnumber := congrArg number h
  rwa [number_decimal, number_decimal] at hnumber

/-- `for(k=lo;k<=hi;k++) print k`. -/
def countUp (lo hi : Nat) : List Line := (List.range' lo (hi + 1 - lo)).map decimal

/-! ## Patterns -/

/-- `/text/`. -/
def contains (text s : Chars) : Bool := decide (text <:+: s)

/-- The text starts with a match of `p`, in which only the dot is special: it matches anything. -/
def dotPrefix : Chars → Chars → Bool
  | [], _ => true
  | _ :: _, [] => false
  | c :: p, d :: s => (c == '.' || c == d) && dotPrefix p s

/-- `s ~ p`, for a `p` in which only the dot is special. -/
def matchesDots (p s : Chars) : Bool := s.tails.any fun t => dotPrefix p t

theorem dotPrefix_self (p : Chars) : dotPrefix p p = true := by
  induction p with
  | nil => rfl
  | cons c p ih => simp [dotPrefix, ih]

/-- A common beginning matches itself. -/
theorem dotPrefix_append_left (a p s : Chars) : dotPrefix (a ++ p) (a ++ s) = dotPrefix p s := by
  induction a with
  | nil => rfl
  | cons c a ih => simp [dotPrefix, ih]

/-- What is not a dot stands for itself. -/
theorem getElem?_of_dotPrefix {p s : Chars} (h : dotPrefix p s = true) {n : Nat}
    (hc : p[n]? = some c) (hdot : c ≠ '.') : s[n]? = some c := by
  induction p generalizing s n with
  | nil => cases hc
  | cons d p ih =>
    cases s with
    | nil => cases h
    | cons e s =>
      simp only [dotPrefix, Bool.and_eq_true, Bool.or_eq_true, beq_iff_eq] at h
      cases n with
      | zero =>
        obtain rfl := Option.some.inj hc
        obtain rfl := h.1.resolve_left hdot
        rfl
      | succ n => exact ih h.2 hc

theorem length_le_of_dotPrefix {p s : Chars} (h : dotPrefix p s = true) : p.length ≤ s.length := by
  induction p generalizing s with
  | nil => exact Nat.zero_le _
  | cons c p ih =>
    cases s with
    | nil => cases h
    | cons d s =>
      simp only [dotPrefix, Bool.and_eq_true] at h
      exact Nat.succ_le_succ (ih h.2)

/-- A match starts somewhere. -/
theorem matchesDots_iff {p s : Chars} :
    matchesDots p s = true ↔ ∃ k, dotPrefix p (s.drop k) = true := by
  rw [matchesDots, List.any_eq_true]
  constructor
  · rintro ⟨t, ht, hmatch⟩
    obtain ⟨u, rfl⟩ := (List.mem_tails _ _).mp ht
    exact ⟨u.length, by rwa [List.drop_left]⟩
  · rintro ⟨k, hmatch⟩
    exact ⟨s.drop k, (List.mem_tails _ _).mpr (List.drop_suffix k s), hmatch⟩

/-- `/^[0-9]/`. -/
def startsWithDigit : Chars → Bool
  | [] => false
  | c :: _ => c.isDigit

/-- `/^[0-9]+$/`. -/
def allDigits (s : Chars) : Bool := decide (s ≠ []) && s.all Char.isDigit

theorem startsWithDigit_decimal_append (n : Nat) (s : Chars) :
    startsWithDigit (decimal n ++ s) = true := by
  cases hn : decimal n with
  | nil => exact absurd hn (decimal_ne_nil n)
  | cons c cs =>
    have hc : c ∈ decimal n := by rw [hn]; exact .head _
    exact isDigit_of_mem_decimal hc

@[simp] theorem allDigits_decimal (n : Nat) : allDigits (decimal n) = true := by
  simp only [allDigits, ne_eq, decimal_ne_nil, not_false_eq_true, decide_true, Bool.true_and,
    List.all_eq_true]
  exact fun c hc => isDigit_of_mem_decimal hc

/-! ## Fields -/

/-- What separates the fields of a record. -/
def isBlank (c : Char) : Bool := c == ' ' || c == '\t' || c == '\n'

/-- A text that awk reads as one field. -/
def IsWord (w : Chars) : Prop := w ≠ [] ∧ ∀ c ∈ w, isBlank c = false

-- named, because a search could also go through all characters
instance (w : Chars) : Decidable (IsWord w) := @instDecidableAnd _ _ _ (List.decidableBAll _ w)

/-- The fields `$1` to `$NF`. -/
def words (s : Chars) : List Chars := (s.splitOnP isBlank).filter (· ≠ [])

/-- The field `$k`, empty beyond `$NF`. -/
def field (k : Nat) (s : Chars) : Chars := (words s)[k - 1]?.getD []

section

variable (ws : List Chars)

/-- Fields printed with a blank between them. -/
def unwords : Chars := [' '].intercalate ws

theorem unwords_cons_cons (w v : Chars) (vs : List Chars) :
    unwords (w :: v :: vs) = w ++ ' ' :: unwords (v :: vs) := by
  simp [unwords, List.intercalate_cons_cons]

theorem isWord_of_isDigit (hne : w ≠ []) (h : ∀ c ∈ w, c.isDigit = true ∨ c = '-') :
    IsWord w := by
  refine ⟨hne, fun c hc => ?_⟩
  rcases h c hc with hdigit | rfl
  · have hother : ∀ d : Char, d.isDigit = false → (c == d) = false := by
      intro d hd
      refine beq_eq_false_iff_ne.mpr fun hcd => ?_
      rw [hcd, hd] at hdigit
      cases hdigit
    simp only [isBlank, hother ' ' rfl, hother '\t' rfl, hother '\n' rfl, Bool.or_self]
  · rfl

theorem isWord_decimal (n : Nat) : IsWord (decimal n) :=
  isWord_of_isDigit (decimal_ne_nil n) fun _ hc => .inl (isDigit_of_mem_decimal hc)

/-- The text of a pattern: fields, with a blank after each. -/
def blankAfter : Chars := ws.flatMap fun w => w ++ [' ']

theorem words_blankAfter_append (s : Chars) (h : ∀ w ∈ ws, IsWord w) :
    words (blankAfter ws ++ s) = ws ++ words s := by
  induction ws with
  | nil => rfl
  | cons w ws ih =>
    obtain ⟨hw, hws⟩ := List.forall_mem_cons.mp h
    have hfront : blankAfter (w :: ws) ++ s = w ++ ' ' :: (blankAfter ws ++ s) := by
      simp [blankAfter]
    rw [hfront, words, List.splitOnP_append_cons_of_forall_mem hw.2 _ rfl, List.filter_cons,
      if_pos (by simpa using hw.1), ← words, ih hws, List.cons_append]

end

/-- What was joined is read as the fields that are not empty. -/
theorem words_unwords_filter (h : ∀ w ∈ ws, ∀ c ∈ w, isBlank c = false) :
    words (unwords ws) = ws.filter (· ≠ []) := filter_splitOnP_intercalate rfl h

/-- What was joined from words is read as those words. -/
theorem words_unwords (h : ∀ w ∈ ws, IsWord w) : words (unwords ws) = ws := by
  rw [words_unwords_filter fun w hw => (h w hw).2]
  refine List.filter_eq_self.mpr fun w hw => ?_
  simpa using (h w hw).1

/-- No piece of a split holds a separator. -/
theorem not_of_mem_splitOnP {p : Char → Bool} (h : w ∈ s.splitOnP p) :
    ∀ c ∈ w, p c = false := by
  induction s generalizing w with
  | nil =>
    obtain rfl := List.mem_singleton.mp h
    simp
  | cons x xs ih =>
    rw [List.splitOnP_cons_eq_if_modifyHead] at h
    split at h
    · rcases List.mem_cons.mp h with rfl | h
      · simp
      · exact ih h
    · rename_i hx
      cases hxs : xs.splitOnP p with
      | nil => exact absurd hxs (List.splitOnP_ne_nil p xs)
      | cons v vs =>
        rw [hxs] at h ih
        rcases List.mem_cons.mp h with rfl | h
        · intro c hc
          rcases List.mem_cons.mp hc with rfl | hc
          · simpa using hx
          · exact ih (.head _) c hc
        · exact ih (.tail _ h)

theorem newline_not_mem_of_isWord (h : IsWord w) : '\n' ∉ w := by
  intro hmem
  have hblank := h.2 _ hmem
  cases hblank

theorem isWord_of_mem_words (h : w ∈ words s) : IsWord w := by
  obtain ⟨hsplit, hne⟩ := List.mem_filter.mp h
  exact ⟨by simpa using hne, not_of_mem_splitOnP hsplit⟩

theorem mem_intercalate {sep c : Char} (h : c ∈ [sep].intercalate ws) :
    c = sep ∨ ∃ w ∈ ws, c ∈ w := by
  induction ws with
  | nil => cases h
  | cons w ws ih =>
    cases ws with
    | nil =>
      rw [List.intercalate_singleton] at h
      exact .inr ⟨w, .head _, h⟩
    | cons v vs =>
      rw [List.intercalate_cons_cons, List.append_assoc] at h
      rcases List.mem_append.mp h with hw | hrest
      · exact .inr ⟨w, .head _, hw⟩
      · rcases List.mem_cons.mp hrest with rfl | hrest
        · exact .inl rfl
        · rcases ih hrest with hsep | ⟨u, hu, hc⟩
          · exact .inl hsep
          · exact .inr ⟨u, .tail _ hu, hc⟩

/-- A piece stands in the text it was joined into. -/
theorem infix_intercalate (h : w ∈ ws) :
    w <:+: [c].intercalate ws := by
  induction ws with
  | nil => cases h
  | cons v vs ih =>
    cases vs with
    | nil =>
      obtain rfl := List.mem_singleton.mp h
      rw [List.intercalate_singleton]
    | cons u us =>
      rw [List.intercalate_cons_cons]
      rcases List.mem_cons.mp h with rfl | h
      · rw [List.append_assoc]
        exact (List.prefix_append _ _).isInfix
      · exact (ih h).trans (List.suffix_append _ _).isInfix

/-- A text without the separator that stands in two joined pieces stands in one of them. -/
theorem infix_append_cons {p a b : Chars} (hc : c ∉ p) (h : p <:+: a ++ c :: b) :
    p <:+: a ∨ p <:+: b := by
  have hstart : ∀ {q s : Chars}, c ∉ q → q <+: s ++ c :: b → q <+: s := by
    intro q s hq hstarts
    induction s generalizing q with
    | nil =>
      cases q with
      | nil => exact List.nil_prefix
      | cons d q =>
        obtain rfl := (List.cons_prefix_cons.mp hstarts).1
        exact absurd (.head _) hq
    | cons x s ih =>
      cases q with
      | nil => exact List.nil_prefix
      | cons d q =>
        obtain ⟨rfl, hrest⟩ := List.cons_prefix_cons.mp hstarts
        exact List.cons_prefix_cons.mpr ⟨rfl, ih (fun hmem => hq (List.mem_cons_of_mem d hmem)) hrest⟩
  induction a with
  | nil =>
    rcases List.infix_cons_iff.mp h with hhere | hlater
    · exact .inl (hstart (s := []) hc hhere).isInfix
    · exact .inr hlater
  | cons x a ih =>
    rcases List.infix_cons_iff.mp h with hhere | hlater
    · exact .inl (hstart (s := x :: a) hc hhere).isInfix
    · exact (ih hlater).imp_left fun hin => List.infix_cons hin

/-- A text without the separator that stands in a joined text stands in a piece. -/
theorem infix_of_infix_intercalate {p : Chars} (hne : p ≠ []) (hc : c ∉ p)
    (h : p <:+: [c].intercalate ws) : ∃ w ∈ ws, p <:+: w := by
  induction ws with
  | nil => exact absurd (List.infix_nil.mp h) hne
  | cons w ws ih =>
    cases ws with
    | nil =>
      rw [List.intercalate_singleton] at h
      exact ⟨w, .head _, h⟩
    | cons v vs =>
      rw [List.intercalate_cons_cons, List.append_assoc] at h
      rcases infix_append_cons hc h with hin | hin
      · exact ⟨w, .head _, hin⟩
      · obtain ⟨u, hu, hin⟩ := ih hin
        exact ⟨u, List.mem_cons_of_mem w hu, hin⟩

/-! ## Replacing a text in a text -/

/-- The first occurrence of `old` is replaced (`strings.Replace` with the count 1). -/
def replaceFirst (old new : Chars) : Chars → Chars
  | [] => []
  | c :: s => if old <+: c :: s then new ++ (c :: s).drop old.length else c :: replaceFirst old new s

/-- Every occurrence of `old` is replaced, after the first `skip` characters have been dropped. -/
def replaceFrom (old new : Chars) : Nat → Chars → Chars
  | _, [] => []
  | skip + 1, _ :: s => replaceFrom old new skip s
  | 0, c :: s =>
    if old <+: c :: s then new ++ replaceFrom old new (old.length - 1) s
    else c :: replaceFrom old new 0 s

/-- `sed 's/old/new/g'`. -/
def replaceAll (old new s : Chars) : Chars := replaceFrom old new 0 s

/-- A text that does not overlap itself, and stands at the end, stands elsewhere only before that. -/
theorem occurrence_cases {p start u v : Chars}
    (hborder : ∀ n < p.length, 0 < n → ¬ p.drop n <+: p) (h : start ++ p = u ++ (p ++ v)) :
    u = start ∧ v = [] ∨ p <:+ v := by
  rcases List.append_eq_append_iff.mp h with ⟨w, rfl, hw⟩ | ⟨w, rfl, hw⟩
  · -- the other occurrence would come after the last one
    have hlength := congrArg List.length hw
    simp only [List.length_append] at hlength
    obtain rfl := List.length_eq_zero_iff.mp (show w.length = 0 by omega)
    obtain rfl := List.length_eq_zero_iff.mp (show v.length = 0 by omega)
    exact .inl ⟨List.append_nil start, rfl⟩
  · rcases Nat.lt_or_ge w.length p.length with hlt | hge
    · -- the two overlap, so they are one
      have hstarts : p.drop w.length <+: p := by
        refine ⟨v, ?_⟩
        rw [← List.drop_append_of_le_length (le_of_lt hlt), hw, List.drop_left]
      have hzero : w.length = 0 := Nat.eq_zero_of_not_pos fun hpos => hborder _ hlt hpos hstarts
      obtain rfl := List.length_eq_zero_iff.mp hzero
      have hlength := congrArg List.length hw
      simp only [List.length_append, List.length_nil] at hlength
      obtain rfl := List.length_eq_zero_iff.mp (show v.length = 0 by omega)
      exact .inl ⟨(List.append_nil u).symm, rfl⟩
    · -- the last one is still there
      obtain ⟨x, rfl⟩ := List.prefix_of_prefix_length_le ⟨v, hw⟩ (List.prefix_append w p) hge
      rw [List.append_assoc, List.append_cancel_left_eq] at hw
      exact .inr (hw ▸ List.suffix_append x p)

/-- What is before the first occurrence and what is after it stay. -/
theorem replaceFirst_eq {old s : Chars} (hold : old ≠ []) (new : Chars) (h : old <:+: s) :
    ∃ u v, s = u ++ (old ++ v) ∧ replaceFirst old new s = u ++ (new ++ v) := by
  induction s with
  | nil => exact absurd (List.infix_nil.mp h) hold
  | cons c s ih =>
    by_cases hhere : old <+: c :: s
    · obtain ⟨v, hv⟩ := hhere
      refine ⟨[], v, hv.symm, ?_⟩
      rw [replaceFirst, if_pos ⟨v, hv⟩, ← hv, List.drop_left]
      rfl
    · obtain ⟨u, v, rfl, hu⟩ := ih ((List.infix_cons_iff.mp h).resolve_left hhere)
      refine ⟨c :: u, v, rfl, ?_⟩
      rw [replaceFirst, if_neg hhere, hu]
      rfl

section ReplaceAll

variable {old new : Chars}

/-- A text that shares no character with `new` starts what was replaced only if it started the
    original. -/
theorem starts_of_starts_replaceFrom (hne : new ≠ []) {p s : Chars} (hp : ∀ c ∈ new, c ∉ p)
    {skip : Nat} (h : p <+: replaceFrom old new skip s) : p <+: s.drop skip := by
  induction s generalizing p skip with
  | nil =>
    rw [List.drop_nil]
    cases skip <;> exact h
  | cons c s ih =>
    cases skip with
    | succ skip => exact ih hp h
    | zero =>
      cases p with
      | nil => exact List.nil_prefix
      | cons d p =>
        rw [replaceFrom] at h
        split at h
        · obtain ⟨e, new, rfl⟩ := List.exists_cons_of_ne_nil hne
          obtain rfl := (List.cons_prefix_cons.mp h).1
          exact absurd (.head _) (hp d (.head _))
        · obtain ⟨rfl, htail⟩ := List.cons_prefix_cons.mp h
          refine List.cons_prefix_cons.mpr ⟨rfl, ?_⟩
          exact ih (fun x hx hmem => hp x hx (List.mem_cons_of_mem d hmem)) htail

/-- **Nothing is left to replace**, if `new` has no character of `old`. -/
theorem not_infix_replaceAll (hold : old ≠ []) (hne : new ≠ []) (hnew : ∀ c ∈ new, c ∉ old)
    (s : Chars) : ¬ old <:+: replaceAll old new s := by
  have hskip : ∀ {t : Chars}, old <:+: new ++ t → old <:+: t := by
    intro t h
    induction new with
    | nil => exact h
    | cons e new ih =>
      obtain ⟨d, rest, rfl⟩ := List.exists_cons_of_ne_nil hold
      obtain ⟨he, hnew⟩ := List.forall_mem_cons.mp hnew
      rcases List.infix_cons_iff.mp h with hhere | hlater
      · obtain rfl := (List.cons_prefix_cons.mp hhere).1
        exact absurd (.head _) he
      · by_cases hnil : new = []
        · subst hnil
          exact hlater
        · exact ih hnil hnew hlater
  have hgo : ∀ skip, ¬ old <:+: replaceFrom old new skip s := by
    induction s with
    | nil =>
      intro skip h
      cases skip <;> exact hold (List.infix_nil.mp h)
    | cons c s ih =>
      intro skip
      cases skip with
      | succ skip => exact ih skip
      | zero =>
        intro h
        by_cases hhere : old <+: c :: s
        · rw [replaceFrom, if_pos hhere] at h
          exact ih _ (hskip h)
        · rw [replaceFrom, if_neg hhere] at h
          rcases List.infix_cons_iff.mp h with hstart | hlater
          · have hstarts : old <+: replaceFrom old new 0 (c :: s) := by
              rwa [replaceFrom, if_neg hhere]
            exact hhere (starts_of_starts_replaceFrom hne hnew hstarts)
          · exact ih 0 hlater
  exact hgo 0

end ReplaceAll

@[simp] theorem words_of_isWord (h : IsWord w) : words w = [w] := by
  have hjoin : words (unwords [w]) = [w] := words_unwords (by simpa using h)
  rwa [unwords, List.intercalate_singleton] at hjoin

@[simp] theorem field_one_decimal (n : Nat) : field 1 (decimal n) = decimal n := by
  simp [field, words_of_isWord (isWord_decimal n)]

/-- `read -r a b`: the first word and the rest. -/
def readTwo (s : Line) : Chars × Chars :=
  match words s with
  | [] => ([], [])
  | a :: rest => (a, unwords rest)

theorem readTwo_decimal (m n : Nat) :
    readTwo (unwords [decimal m, decimal n]) = (decimal m, decimal n) := by
  have hwords : words (unwords [decimal m, decimal n]) = [decimal m, decimal n] := by
    refine words_unwords fun w hw => ?_
    rcases List.mem_pair.mp hw with rfl | rfl
    · exact isWord_decimal m
    · exact isWord_decimal n
  rw [readTwo, hwords]
  simp only [unwords, List.intercalate_singleton]

/-! ## Lines -/

/-- The records of a text: its lines, where a last newline ends a line and starts none. -/
def lines (s : Chars) : List Line :=
  let ls := s.splitOn '\n'
  if ls.getLast? = some [] then ls.dropLast else ls

/-- `tr a b`. -/
def tr (a b : Char) (s : Chars) : Chars := s.map fun c => if c = a then b else c

/-- `tr -d a`. -/
def trDelete (a : Char) (s : Chars) : Chars := s.filter (· ≠ a)

section

variable {a : Char} (b : Char)

theorem tr_of_not_mem (h : a ∉ s) : tr a b s = s := by
  have hid : ∀ c ∈ s, (if c = a then b else c) = id c := by
    intro c hc
    have hca : c ≠ a := fun hca => h (hca ▸ hc)
    exact if_neg hca
  rw [tr, List.map_congr_left hid, List.map_id]

/-- `tr` exchanges the separator of a joined text. -/
theorem tr_intercalate {ls : List Chars} (h : ∀ l ∈ ls, a ∉ l) :
    tr a b ([a].intercalate ls) = [b].intercalate ls := by
  induction ls with
  | nil => rfl
  | cons l ls ih =>
    have hl := tr_of_not_mem b (h l (.head _))
    cases ls with
    | nil => simpa only [List.intercalate_singleton] using hl
    | cons k ks =>
      have ih := ih fun m hm => h m (.tail _ hm)
      have happ : ∀ s t : Chars, tr a b (s ++ t) = tr a b s ++ tr a b t :=
        fun s t => List.map_append
      have hsep : tr a b [a] = [b] := by simp [tr]
      rw [List.intercalate_cons_cons, List.intercalate_cons_cons, happ, happ, hl, hsep, ih]

/-- What was joined, a line each, is read as those lines. -/
theorem lines_intercalate (hne : ls ≠ []) (h : ∀ l ∈ ls, l ≠ [] ∧ '\n' ∉ l) :
    lines (['\n'].intercalate ls) = ls := by
  have hnl : ∀ l ∈ ls, '\n' ∉ l := fun l hl => (h l hl).2
  have hlast : ls.getLast? ≠ some [] := by
    intro hlast
    exact (h [] (List.mem_of_getLast? hlast)).1 rfl
  simp only [lines, List.splitOn_intercalate '\n' hnl hne, if_neg hlast]

theorem lines_join (hne : ls ≠ []) (h : ∀ l ∈ ls, IsWord l) :
    lines (['\n'].intercalate ls) = ls := by
  exact lines_intercalate hne fun l hl => ⟨(h l hl).1, newline_not_mem_of_isWord (h l hl)⟩

/-- A line holds no newline. -/
theorem newline_not_mem_of_mem_lines {l : Line} (h : l ∈ lines s) : '\n' ∉ l := by
  have hline : l ∈ s.splitOn '\n' := by
    simp only [lines] at h
    split at h
    · exact List.mem_of_mem_dropLast h
    · exact h
  intro hmem
  cases not_of_mem_splitOnP hline _ hmem

/-- A text without a newline is one line. -/
theorem lines_of_not_mem (hne : s ≠ []) (h : '\n' ∉ s) : lines s = [s] := by
  have hone : (['\n'].intercalate [s]).splitOn '\n' = [s] :=
    List.splitOn_intercalate '\n' (by simpa using h) (by simp)
  rw [List.intercalate_singleton] at hone
  simp [lines, hone, hne]

/-- A file of these lines: each ends with a newline. -/
def unlines (ls : List Line) : Chars := ls.flatMap fun l => l ++ ['\n']

theorem unlines_append (ls ms : List Line) : unlines (ls ++ ms) = unlines ls ++ unlines ms :=
  List.flatMap_append

/-- Lines that end with a newline are lines joined by newlines, with an empty piece at the end. -/
theorem unlines_eq_intercalate (ls : List Line) :
    unlines ls = ['\n'].intercalate (ls ++ [[]]) := by
  induction ls with
  | nil => rfl
  | cons l ls ih =>
    obtain ⟨m, ms, hm⟩ := List.exists_cons_of_ne_nil (List.append_ne_nil_of_right_ne_nil ls
      (List.cons_ne_nil ([] : Line) []))
    rw [List.cons_append, hm, List.intercalate_cons_cons, ← hm, ← ih]
    rfl

theorem unlines_eq_append (hne : ls ≠ []) :
    unlines ls = ['\n'].intercalate ls ++ ['\n'] := by
  induction ls with
  | nil => exact absurd rfl hne
  | cons l ls ih =>
    cases ls with
    | nil => simp [unlines]
    | cons m ms =>
      have hcons : unlines (l :: m :: ms) = l ++ ['\n'] ++ unlines (m :: ms) := List.flatMap_cons
      rw [hcons, ih (List.cons_ne_nil m ms), List.intercalate_cons_cons, List.append_assoc _ _ ['\n']]

/-- `strings.Split` of a file at its newlines. -/
theorem splitOn_unlines (h : ∀ l ∈ ls, '\n' ∉ l) :
    (unlines ls).splitOn '\n' = ls ++ [[]] := by
  rw [unlines_eq_intercalate]
  refine List.splitOn_intercalate '\n' (fun l hl => ?_) (by simp)
  rcases List.mem_append.mp hl with hl | hl
  · exact h l hl
  · rw [List.mem_singleton.mp hl]
    exact List.not_mem_nil

/-- A file of lines has those lines. -/
theorem lines_unlines (h : ∀ l ∈ ls, '\n' ∉ l) : lines (unlines ls) = ls := by
  simp [lines, splitOn_unlines h]

theorem trDelete_of_not_mem (h : a ∉ s) : trDelete a s = s := by
  refine List.filter_eq_self.mpr fun c hc => ?_
  have hca : c ≠ a := fun hca => h (hca ▸ hc)
  simpa using hca

end

/-! ## `sort -n` -/

/-- `sort -n`. -/
def sortN (ls : List Line) : List Line := ls.insertionSort fun a b => number a ≤ number b

/-- Sorting printed numbers is printing the sorted numbers. -/
theorem sortN_decimal (ns : List Nat) :
    sortN (ns.map decimal) = (ns.insertionSort (· ≤ ·)).map decimal := by
  refine (List.map_insertionSort _ _ decimal ns ?_).symm
  simp

/-! ## The records of several files -/

/-- A record with awk's counters: `NR` over all files, `FNR` in its own. -/
structure Record where
  nr : Nat
  fnr : Nat
  text : Line

/-- The records awk reads from its file arguments, in order. -/
def records (files : List (List Line)) : List Record :=
  ((files.flatMap fun f => f.zipIdx 1).zipIdx 1).map fun r => ⟨r.2, r.1.2, r.1.1⟩

theorem zipIdx_zipIdx {α : Type*} (l : List α) (j k : Nat) :
    (l.zipIdx j).zipIdx (k + j) = (l.zipIdx j).map fun r => (r, k + r.2) := by
  induction l generalizing j with
  | nil => rfl
  | cons a l ih =>
    simp only [List.zipIdx_cons, List.map_cons, List.cons.injEq, true_and]
    exact ih (j + 1)

/-- Of two files, `NR` and `FNR` agree on the first; on the second `NR` is ahead by the length of
    the first. -/
theorem records_pair (f g : List Line) :
    records [f, g] = ((f.zipIdx 1).map fun r => ⟨r.2, r.2, r.1⟩) ++
      (g.zipIdx 1).map fun r => ⟨f.length + r.2, r.2, r.1⟩ := by
  have hfirst : (f.zipIdx 1).zipIdx 1 = (f.zipIdx 1).map fun r => (r, r.2) := by
    simpa using zipIdx_zipIdx f 1 0
  have hsecond : (g.zipIdx 1).zipIdx (1 + f.length) =
      (g.zipIdx 1).map fun r => (r, f.length + r.2) := by
    rw [Nat.add_comm]
    exact zipIdx_zipIdx g 1 f.length
  simp only [records, List.flatMap_cons, List.flatMap_nil, List.append_nil, List.zipIdx_append,
    List.length_zipIdx, hfirst, hsecond, List.map_append, List.map_map]
  rfl

end Shell
