/-
  The text functions of Go's `strings` package that the operator parses with, over the characters of
  a string: trimming, splitting at white space or at a separator, cutting at the first occurrence,
  the `key:value` replies of `INFO`, and the `strconv` parsers.

  A reply is parsed as its list of characters (`Chars`); only the tokens a parser returns are made
  into strings again.
-/
import Mathlib.Algebra.Group.Nat.Defs
import Mathlib.Algebra.Ring.Int.Defs
import Mathlib.Data.List.TakeWhile

namespace Text

/-- A text as its characters. -/
abbrev Chars := List Char

-- tried before a search through all characters
instance {p : Char → Prop} [DecidablePred p] (w : Chars) : Decidable (∀ c ∈ w, p c) :=
  List.decidableBAll p w

instance (w : Chars) (ws : List Chars) : Decidable (w ∈ ws) := List.instDecidableMemOfLawfulBEq w ws

section

variable (c : Char) (s : Chars)

/-- `unicode.IsSpace`. -/
def isSpace : Bool :=
  let n := c.toNat
  n == 0x20 || (0x09 ≤ n && n ≤ 0x0D) || n == 0x85 || n == 0xA0 || n == 0x1680 ||
    (0x2000 ≤ n && n ≤ 0x200A) || n == 0x2028 || n == 0x2029 || n == 0x202F || n == 0x205F ||
    n == 0x3000

/-- `strings.TrimSpace`. -/
def trimSpace : Chars := ((s.dropWhile isSpace).reverse.dropWhile isSpace).reverse

/-- `strings.Split` at a one-character separator. -/
def split : List Chars := s.splitOn c

/-- `strings.Fields`. -/
def fields : List Chars := (s.splitOnP isSpace).filter (· ≠ [])

/-- `if i := strings.Index(s, c); i >= 0 { s = s[:i] }`. -/
def cutAt : Chars := s.takeWhile (· != c)

/-- `strings.Cut`: what stands before and after the first `c`, if there is one. -/
def cut : Option (Chars × Chars) :=
  match s.dropWhile (· != c) with
  | [] => none
  | _ :: after => some (cutAt c s, after)

/-- `s[:strings.LastIndex(s, c)]`, if `c` occurs. -/
def beforeLast : Option Chars :=
  match s.reverse.dropWhile (· != c) with
  | [] => none
  | _ :: rest => some rest.reverse

end

/-- The lines of a `key:value` reply (`INFO`, `CLUSTER INFO`), in order.  Blank lines and lines
    without a key are dropped; `skip` says which others are. -/
def infoLines (skip : Chars → Bool) (res : Chars) : List (String × String) :=
  (split '\n' res).filterMap fun line =>
    let line := trimSpace line
    if line = [] || skip line then none
    else
      match cut ':' line with
      | some (key, value) =>
        if key = [] then none else some (String.ofList key, String.ofList (trimSpace value))
      | none => none

/-- Reading a map built by assigning the pairs in order: the last one wins. -/
def lookupLast (key : String) (kvs : List (String × String)) : Option String :=
  kvs.reverse.lookup key

/-- `strconv.ParseBool`. -/
def parseBool (s : String) : Option Bool :=
  if s ∈ ["1", "t", "T", "TRUE", "true", "True"] then some true
  else if s ∈ ["0", "f", "F", "FALSE", "false", "False"] then some false
  else none

/-- The value of a non-empty run of decimal digits. -/
def parseDigits (s : Chars) : Option Nat :=
  if s ≠ [] ∧ s.all Char.isDigit then
    some (s.foldl (fun n c => 10 * n + (c.toNat - '0'.toNat)) 0)
  else none

/-- `strconv.ParseInt(s, 10, 64)`. -/
def parseInt64 (s : Chars) : Option Int :=
  let n : Option Int :=
    match s with
    | '-' :: cs => (parseDigits cs).map fun n => -(n : Int)
    | '+' :: cs => (parseDigits cs).map fun n => (n : Int)
    | cs => (parseDigits cs).map fun n => (n : Int)
  n.filter fun n => -2 ^ 63 ≤ n ∧ n < 2 ^ 63

/-- `strconv.ParseInt(s, 10, 32)`. -/
def parseInt32 (s : Chars) : Option Int :=
  (parseInt64 s).filter fun n => -2 ^ 31 ≤ n ∧ n < 2 ^ 31

/-- What `cutAt` leaves does not contain the separator. -/
theorem not_mem_cutAt (c : Char) (s : Chars) : c ∉ cutAt c s := by
  intro h
  have hne := List.mem_takeWhile_imp h
  simp at hne

variable {c : Char} (n : Nat)

section

variable {a : Chars} (h : c ∉ a) (b : Chars)

include h

/-- The cut passes over a text without the separator. -/
theorem cutAt_append :
    cutAt c (a ++ b) = a ++ cutAt c b := by
  refine List.takeWhile_append_of_pos fun d hd => ?_
  rw [bne_iff_ne]
  rintro rfl
  exact h hd

theorem cutAt_append_cons :
    cutAt c (a ++ c :: b) = a := by
  rw [cutAt_append h, cutAt, List.takeWhile_cons_of_neg (by simp), List.append_nil]

theorem cut_append_cons :
    cut c (a ++ c :: b) = some (a, b) := by
  have hdrop : (a ++ c :: b).dropWhile (· != c) = c :: b := by
    rw [List.dropWhile_append_of_pos, List.dropWhile_cons_of_neg (by simp)]
    intro d hd
    rw [bne_iff_ne]
    rintro rfl
    exact h hd
  rw [cut, hdrop, cutAt_append_cons h]

end

/-- The last separator is the one after which there is none. -/
theorem beforeLast_append {b : Chars} (h : c ∉ b) (a : Chars) :
    beforeLast c (a ++ c :: b) = some a := by
  have hskip : ∀ d ∈ b.reverse, (d != c) = true := fun d hd => by
    rw [bne_iff_ne]
    rintro rfl
    exact h (List.mem_reverse.mp hd)
  rw [beforeLast, List.reverse_append, List.reverse_cons, List.append_assoc,
    List.dropWhile_append_of_pos hskip, List.singleton_append,
    List.dropWhile_cons_of_neg (by simp)]
  exact congrArg some (List.reverse_reverse a)

theorem cut_of_not_mem {a : Chars} (h : c ∉ a) : cut c a = none := by
  have hdrop : a.dropWhile (· != c) = [] := by
    refine List.dropWhile_eq_nil_iff.mpr fun d hd => ?_
    rw [bne_iff_ne]
    rintro rfl
    exact h hd
  rw [cut, hdrop]

/-- Texts without a separator, joined by one, are what a splitting gives back; empty ones are lost. -/
theorem filter_splitOnP_intercalate {p : Char → Bool} {sep : Char} (hsep : p sep = true)
    {ws : List Chars} (h : ∀ w ∈ ws, ∀ c ∈ w, p c = false) :
    (([sep].intercalate ws).splitOnP p).filter (· ≠ []) = ws.filter (· ≠ []) := by
  induction ws with
  | nil => rfl
  | cons w ws ih =>
    have hw := h w (.head _)
    have ih := ih fun v hv => h v (.tail _ hv)
    cases ws with
    | nil => rw [List.intercalate_singleton, List.splitOnP_eq_singleton hw]
    | cons v vs =>
      rw [List.intercalate_cons_cons, List.append_assoc, List.singleton_append,
        List.splitOnP_append_cons_of_forall_mem hw _ hsep, List.filter_cons, List.filter_cons, ih]

/-- A text that `strings.Fields` reads as one field. -/
def IsField (w : Chars) : Prop := w ≠ [] ∧ ∀ c ∈ w, isSpace c = false

-- named, because a search could also go through all characters
instance (w : Chars) : Decidable (IsField w) := @instDecidableAnd _ _ _ (List.decidableBAll _ w)

/-- Fields that were joined by blanks are read back. -/
theorem fields_intercalate {ws : List Chars} (h : ∀ w ∈ ws, IsField w) :
    fields ([' '].intercalate ws) = ws := by
  rw [fields, filter_splitOnP_intercalate rfl fun w hw => (h w hw).2]
  refine List.filter_eq_self.mpr fun w hw => ?_
  simpa using (h w hw).1

/-- A text that neither starts nor ends with white space. -/
def Trimmed (s : Chars) : Prop :=
  (∃ a m, s = a :: m ∧ isSpace a = false) ∧ ∃ m z, s = m ++ [z] ∧ isSpace z = false

/-- … is what is left of it, with white space behind. -/
theorem trimSpace_append {s tail : Chars} (h : Trimmed s) (htail : ∀ c ∈ tail, isSpace c = true) :
    trimSpace (s ++ tail) = s := by
  obtain ⟨⟨a, m, hfirst, ha⟩, front, z, hlast, hz⟩ := h
  have hfront : (s ++ tail).dropWhile isSpace = s ++ tail := by
    rw [hfirst, List.cons_append, List.dropWhile_cons_of_neg (by simp [ha])]
  have hback : (tail.reverse ++ s.reverse).dropWhile isSpace = s.reverse := by
    rw [List.dropWhile_append_of_pos fun c hc => htail c (List.mem_reverse.mp hc), hlast,
      List.reverse_concat, List.dropWhile_cons_of_neg (by simp [hz])]
  rw [trimSpace, hfront, List.reverse_append, hback, List.reverse_reverse]

theorem IsField.trimmed {w : Chars} (h : IsField w) : Trimmed w := by
  obtain ⟨a, m, hfirst⟩ := List.exists_cons_of_ne_nil h.1
  refine ⟨⟨a, m, hfirst, h.2 a (by simp [hfirst])⟩, w.dropLast, w.getLast h.1, ?_,
    h.2 _ (List.getLast_mem h.1)⟩
  exact (List.dropLast_concat_getLast h.1).symm

theorem trimmed_intercalate {sep : Char} {ws : List Chars} (hne : ws ≠ [])
    (h : ∀ w ∈ ws, Trimmed w) : Trimmed ([sep].intercalate ws) := by
  induction ws with
  | nil => exact absurd rfl hne
  | cons w ws ih =>
    cases ws with
    | nil =>
      rw [List.intercalate_singleton]
      exact h w (.head _)
    | cons v vs =>
      obtain ⟨⟨a, m, hfirst, ha⟩, -⟩ := h w (.head _)
      obtain ⟨-, front, z, hlast, hz⟩ :=
        ih (List.cons_ne_nil v vs) fun u hu => h u (List.mem_cons_of_mem w hu)
      rw [List.intercalate_cons_cons, hlast, hfirst]
      exact ⟨⟨a, _, rfl, ha⟩, _, z, (List.append_assoc _ front [z]).symm, hz⟩

/-- The characters of a number are its decimal digits. -/
theorem toList_toString_nat : (toString n).toList = Nat.toDigits 10 n := by
  rw [Nat.toString_eq_repr, Nat.repr_eq_ofList_toDigits, String.toList_ofList]

/-- The decimal digits of a number determine it. -/
theorem toString_nat_injective {m n : Nat} (h : toString m = toString n) : m = n := by
  have hd : Nat.toDigits 10 m = Nat.toDigits 10 n := by
    rw [← toList_toString_nat, ← toList_toString_nat, h]
  rw [← Nat.ofDigitChars_toDigits (n := m) (by decide : 1 < 10) (by decide), hd,
    Nat.ofDigitChars_toDigits (by decide) (by decide)]

theorem toString_int_injective {m n : Int} (hm : 0 ≤ m) (hn : 0 ≤ n)
    (h : toString m = toString n) : m = n := by
  obtain ⟨a, rfl⟩ := Int.eq_ofNat_of_zero_le hm
  obtain ⟨b, rfl⟩ := Int.eq_ofNat_of_zero_le hn
  exact congrArg Int.ofNat (toString_nat_injective h)

/-- Only digits stand in a number. -/
theorem not_mem_toString_nat (hc : c.isDigit = false) (n : Nat) :
    c ∉ (toString n).toList := by
  rw [toList_toString_nat]
  intro h
  rw [Nat.isDigit_of_mem_toDigits (by decide) (by decide) h] at hc
  cases hc

/-- A number in front of a separator that is no digit is known from the text. -/
theorem toString_nat_sep_inj (hc : c.isDigit = false) {m n : Nat} {r r' : Chars}
    (h : (toString m).toList ++ c :: r = (toString n).toList ++ c :: r') : m = n ∧ r = r' := by
  have hcut : ∀ (n : Nat) (r : Chars),
      ((toString n).toList ++ c :: r).takeWhile (· != c) = (toString n).toList := by
    intro n r
    rw [List.takeWhile_append_of_pos (fun d hd => by
      rw [bne_iff_ne]
      rintro rfl
      exact not_mem_toString_nat hc n hd)]
    simp
  have heq : (toString m).toList = (toString n).toList := by rw [← hcut m r, h, hcut n r']
  refine ⟨toString_nat_injective (String.toList_injective heq), ?_⟩
  rw [heq] at h
  exact (List.cons.inj (List.append_cancel_left h)).2

/-- A printed number is read back. -/
theorem parseDigits_toDigits : parseDigits (Nat.toDigits 10 n) = some n := by
  have hall : (Nat.toDigits 10 n).all Char.isDigit = true :=
    List.all_eq_true.mpr fun c hc => Nat.isDigit_of_mem_toDigits (by decide) (by decide) hc
  rw [parseDigits, if_pos ⟨Nat.toDigits_ne_nil, hall⟩]
  exact congrArg some (Nat.ofDigitChars_toDigits (by decide) (by decide))

/-- What does not start with a digit is not a run of digits. -/
theorem parseDigits_of_not_digit (hc : c.isDigit = false) (s : Chars) :
    parseDigits (c :: s) = none := by
  rw [parseDigits, if_neg]
  rintro ⟨-, hall⟩
  rw [List.all_cons, hc] at hall
  cases hall

/-- A number that fits is read back. -/
theorem parseInt64_toDigits {n : Nat} (h : n < 2 ^ 63) :
    parseInt64 (Nat.toDigits 10 n) = some (n : Int) := by
  obtain ⟨c, s, hs⟩ := List.exists_cons_of_ne_nil (Nat.toDigits_ne_nil (b := 10) (n := n))
  have hdigit : c.isDigit = true :=
    Nat.isDigit_of_mem_toDigits (by decide) (by decide) (hs ▸ List.mem_cons_self)
  have hminus : c ≠ '-' := by
    rintro rfl
    cases hdigit
  have hplus : c ≠ '+' := by
    rintro rfl
    cases hdigit
  rw [hs]
  unfold parseInt64
  split
  · next heq => exact absurd (List.cons.inj heq).1 hminus
  · next heq => exact absurd (List.cons.inj heq).1 hplus
  · rw [← hs, parseDigits_toDigits]
    exact Option.filter_some_pos (by simp; omega)

/-- A text that starts with neither a digit nor a sign is no number. -/
theorem parseInt32_of_not_digit (hc : c.isDigit = false) (hminus : c ≠ '-') (hplus : c ≠ '+')
    (s : Chars) : parseInt32 (c :: s) = none := by
  have hparse : parseInt64 (c :: s) = none := by
    unfold parseInt64
    split
    · next heq => exact absurd (List.cons.inj heq).1 hminus
    · next heq => exact absurd (List.cons.inj heq).1 hplus
    · rw [parseDigits_of_not_digit hc]
      rfl
  rw [parseInt32, hparse]
  rfl

/-! ## Suffixes with a separator -/

/-- A suffix with one separator, in front. -/
def Stem (c : Char) (d : Chars) : Prop := d.head? = some c ∧ c ∉ d.tail

instance (c : Char) (d : Chars) : Decidable (Stem c d) := inferInstanceAs (Decidable (_ ∧ _))

/-- Such a suffix does not end in another one. -/
theorem Stem.ne_append {d e x : Chars} (hd : Stem c d) (he : Stem c e) (hx : x ≠ []) :
    d ≠ x ++ e := by
  intro heq
  have hmem : c ∈ e := List.mem_of_mem_head? (Option.mem_def.mpr he.1)
  refine hd.2 ?_
  rw [heq, List.tail_append_of_ne_nil hx]
  exact List.mem_append_right _ hmem

end Text
