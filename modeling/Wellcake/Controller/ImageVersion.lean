/-
  The version gate of the rendered configuration (`valkeyImageAtLeast`): is the image at least
  `maj.min`?  A wrong `true` writes a directive on which an older server refuses to start.

      registry.example:5000/valkey/valkey:8.1.3-alpine@sha256:07ab…
      └───── host:port ───┘└─── path ───┘└── tag ────┘└─ digest ─┘

  The answer is in the tag, and the tag is found by text surgery: everything from the first `@` is
  cut off, and what follows the last `:` is the tag unless a `/` comes after it (then the `:` was
  that of a port).  `ImageRef` is a reference by its parts, with as much of the grammar as the
  surgery rests on: no `/` in the registry, no `:` in the path, neither in the tag, no `@` in any
  of them, and a tag that does not start with a SIGN, which `strconv.Atoi` would read.
-/
import Mathlib.Data.List.Basic
import Wellcake.Base.Text

namespace Wellcake.Image

open Text

/-! ## The gate -/

/-- `strings.LastIndexByte`: `-1` if there is none. -/
def lastIndexByte (c : Char) (s : Chars) : Int := s.length - 1 - s.reverse.idxOf c

/-- `strings.SplitN(s, ".", 3)`. -/
def splitParts (s : Chars) : List Chars :=
  match s.splitOn '.' with
  | a :: b :: c :: rest => [a, b, ['.'].intercalate (c :: rest)]
  | parts => parts

/-- The number `strconv.Atoi` gives for digits, its error ignored: none are 0, too many the greatest
    `int`. -/
def atoiDigits (s : Chars) : Int := min ((parseDigits s).getD 0) (2 ^ 63 - 1)

/-- `valkeyImageAtLeast`. -/
def valkeyImageAtLeast (image : Chars) (maj min : Int) : Bool :=
  let image := cutAt '@' image
  let colon := lastIndexByte ':' image
  if colon < 0 ∨ colon < lastIndexByte '/' image then false
  else
    let parts := splitParts (image.drop (colon + 1).toNat)
    match parseInt64 (parts.headD []) with
    | none => false
    | some gotMaj =>
      let gotMin := (parts[1]?.map fun m => atoiDigits (m.takeWhile Char.isDigit)).getD 0
      if gotMaj ≠ maj then decide (maj < gotMaj) else decide (min ≤ gotMin)

/-! ## References -/

/-- The characters a tag starts with. -/
def isWordChar (c : Char) : Bool := c.isAlphanum || c == '_'

/-- An image reference `[registry/]path[:tag][@digest]`. -/
structure ImageRef where
  registry : Option Chars
  path : Chars
  tag : Option Chars
  digest : Option Chars
  registry_ok : ∀ r ∈ registry, '/' ∉ r ∧ '@' ∉ r
  path_ok : ':' ∉ path ∧ '@' ∉ path
  tag_ok : ∀ t ∈ tag, t.head?.any isWordChar = true ∧ ∀ c ∈ t, isWordChar c || c == '.' || c == '-'

/-- The reference without tag and digest. -/
def ImageRef.name (r : ImageRef) : Chars := (r.registry.elim [] fun host => host ++ ['/']) ++ r.path

/-- The reference as it is written. -/
def ImageRef.text (r : ImageRef) : Chars :=
  r.name ++ (r.tag.elim [] fun t => ':' :: t) ++ r.digest.elim [] fun d => '@' :: d

/-- The major version of a tag: its first part, if it is a decimal number that fits. -/
def majorOf (tag : Chars) : Option Nat :=
  (parseDigits ((tag.splitOn '.').headD [])).filter fun n => n < 2 ^ 63

/-- The minor version: the digits its second part starts with. -/
def minorOf (tag : Chars) : Nat :=
  (parseDigits (((tag.splitOn '.').getD 1 []).takeWhile Char.isDigit)).getD 0

/-! ## Positions -/

section LastIndex

variable {c : Char} {a b s : Chars}

theorem lastIndexByte_lt (c : Char) (s : Chars) : lastIndexByte c s < s.length := by
  unfold lastIndexByte
  omega

/-- What comes after the last one does not matter. -/
theorem lastIndexByte_append (h : c ∉ b) : lastIndexByte c (a ++ b) = lastIndexByte c a := by
  rw [lastIndexByte, List.reverse_append, List.idxOf_append_of_notMem (by simpa using h),
    List.length_append, List.length_reverse, lastIndexByte]
  omega

theorem lastIndexByte_concat : lastIndexByte c (a ++ [c]) = a.length := by
  rw [lastIndexByte, List.reverse_concat, List.idxOf_cons_self, List.length_append]
  simp

/-- The last one is not before any. -/
theorem length_le_lastIndexByte : (a.length : Int) ≤ lastIndexByte c (a ++ [c] ++ b) := by
  have hlt : (b.reverse ++ [c]).idxOf c < (b.reverse ++ [c]).length :=
    List.idxOf_lt_length_of_mem (by simp)
  have hindex : (a ++ [c] ++ b).reverse.idxOf c = (b.reverse ++ [c]).idxOf c := by
    rw [List.reverse_append, List.reverse_concat, List.append_cons]
    exact List.idxOf_append_of_mem (by simp)
  rw [lastIndexByte, hindex]
  simp only [List.length_append, List.length_reverse, List.length_singleton] at hlt ⊢
  omega

end LastIndex

theorem splitParts_head (s : Chars) : (splitParts s).headD [] = (s.splitOn '.').headD [] := by
  unfold splitParts
  split <;> simp_all

theorem splitParts_second (s : Chars) : (splitParts s)[1]? = (s.splitOn '.')[1]? := by
  unfold splitParts
  split <;> simp_all

/-- Without a sign in front, what is read is digits. -/
theorem parseInt64_of_unsigned {s : Chars} (hminus : s.head? ≠ some '-') (hplus : s.head? ≠ some '+') :
    parseInt64 s = ((parseDigits s).filter fun n => n < 2 ^ 63).map Int.ofNat := by
  unfold parseInt64
  split
  · exact absurd rfl hminus
  · exact absurd rfl hplus
  · cases parseDigits s with
    | none => rfl
    | some n =>
      have hfits : (-2 ^ 63 ≤ (n : Int) ∧ (n : Int) < 2 ^ 63) ↔ n < 2 ^ 63 := by omega
      show (some (n : Int)).filter _ = _
      simp only [Option.filter_some, hfits]
      by_cases hn : n < 2 ^ 63
      · rw [if_pos (decide_eq_true hn), if_pos (decide_eq_true hn)]
        rfl
      · rw [if_neg (by rwa [decide_eq_true_iff]), if_neg (by rwa [decide_eq_true_iff])]
        rfl

/-! ## The surgery on a reference -/

section Reference

variable {r : ImageRef} {tag : Chars}

/-- What no tag holds. -/
theorem ImageRef.not_mem_tag (h : r.tag = some tag) {c : Char}
    (hc : (isWordChar c || c == '.' || c == '-') = false) : c ∉ tag := by
  intro hmem
  rw [(r.tag_ok tag h).2 c hmem] at hc
  cases hc

theorem ImageRef.at_not_mem_name : '@' ∉ r.name := by
  refine List.not_mem_append ?_ r.path_ok.2
  cases hr : r.registry with
  | none => exact List.not_mem_nil
  | some host => exact List.not_mem_append (r.registry_ok host hr).2 (by decide)

/-- The digest is dropped. -/
theorem ImageRef.cutAt_text : cutAt '@' r.text = r.name ++ r.tag.elim [] fun t => ':' :: t := by
  have hfront : '@' ∉ r.name ++ r.tag.elim [] fun t => ':' :: t := by
    refine List.not_mem_append r.at_not_mem_name ?_
    cases ht : r.tag with
    | none => exact List.not_mem_nil
    | some tag => exact List.not_mem_cons_of_ne_of_not_mem (by decide) (r.not_mem_tag ht (by decide))
  have hrest : cutAt '@' (r.digest.elim [] fun d => '@' :: d) = [] := by
    cases r.digest <;> rfl
  rw [ImageRef.text, cutAt_append hfront, hrest, List.append_nil]

/-- A tag starts with no sign, nor does its first part. -/
theorem ImageRef.unsigned (h : r.tag = some tag) {c : Char} (hc : isWordChar c = false) :
    ((tag.splitOn '.').headD []).head? ≠ some c := by
  have hjoin : ['.'].intercalate (tag.splitOn '.') = tag := List.intercalate_splitOn _
  have hword := (r.tag_ok tag h).1
  intro hhead
  cases hparts : tag.splitOn '.' with
  | nil =>
    rw [hparts] at hhead
    cases hhead
  | cons p ps =>
    rw [hparts] at hhead hjoin
    obtain ⟨q, rfl⟩ := List.head?_eq_some_iff.mp hhead
    have hstart : tag.head? = some c := by
      rw [← hjoin]
      cases ps with
      | nil => rw [List.intercalate_singleton, List.head?_cons]
      | cons p' ps => rw [List.intercalate_cons_cons, List.append_assoc, List.cons_append, List.head?_cons]
    rw [hstart, Option.any_some, hc] at hword
    cases hword

/-- The gate on a reference with a tag. -/
theorem ImageRef.atLeast_of_tag (h : r.tag = some tag) (maj : Int) {min : Int}
    (hmin : min < 2 ^ 63) : valkeyImageAtLeast r.text maj min = true ↔
      ∃ n, majorOf tag = some n ∧ (maj < n ∨ maj = n ∧ min ≤ minorOf tag) := by
  have hcolon : lastIndexByte ':' (r.name ++ ':' :: tag) = r.name.length := by
    rw [List.append_cons, lastIndexByte_append (r.not_mem_tag h (by decide)), lastIndexByte_concat]
  have hslash : lastIndexByte '/' (r.name ++ ':' :: tag) < r.name.length := by
    rw [lastIndexByte_append
      (List.not_mem_cons_of_ne_of_not_mem (by decide) (r.not_mem_tag h (by decide)))]
    exact lastIndexByte_lt '/' r.name
  have hdrop : (r.name ++ ':' :: tag).drop ((r.name.length : Int) + 1).toNat = tag := by
    rw [List.append_cons]
    exact List.drop_left' (by simp)
  have hmajor : parseInt64 ((splitParts tag).headD []) = (majorOf tag).map Int.ofNat := by
    rw [splitParts_head, majorOf]
    exact parseInt64_of_unsigned (r.unsigned h rfl) (r.unsigned h rfl)
  have hminor : ((splitParts tag)[1]?.map fun m => atoiDigits (m.takeWhile Char.isDigit)).getD 0 =
      Min.min (minorOf tag : Int) (2 ^ 63 - 1) := by
    rw [splitParts_second, minorOf, List.getD_eq_getElem?_getD]
    cases (tag.splitOn '.')[1]? with
    | none => rfl
    | some m => rfl
  rw [valkeyImageAtLeast, r.cutAt_text, h]
  simp only [Option.elim_some, hcolon]
  rw [if_neg (by omega), hdrop, hmajor, hminor]
  cases majorOf tag with
  | none => simp
  | some n =>
    simp only [Option.map_some, Int.ofNat_eq_natCast, Option.some.injEq, exists_eq_left']
    split
    · rw [decide_eq_true_iff]
      omega
    · rw [decide_eq_true_iff]
      omega

/-- Without a tag the last colon, if there is one, is before a slash. -/
theorem ImageRef.atLeast_of_no_tag (h : r.tag = none) (maj min : Int) :
    valkeyImageAtLeast r.text maj min = false := by
  have htext : cutAt '@' r.text = r.name := by
    rw [r.cutAt_text, h]
    exact List.append_nil _
  have hearly : lastIndexByte ':' r.name < 0 ∨ lastIndexByte ':' r.name < lastIndexByte '/' r.name := by
    unfold ImageRef.name
    rw [lastIndexByte_append r.path_ok.1]
    cases hr : r.registry with
    | none => exact .inl (by decide)
    | some host =>
      have hport : lastIndexByte ':' (host ++ ['/']) = lastIndexByte ':' host :=
        lastIndexByte_append (by decide)
      have hhost := lastIndexByte_lt ':' host
      have hslash := length_le_lastIndexByte (c := '/') (a := host) (b := r.path)
      rw [Option.elim_some, hport]
      omega
  rw [valkeyImageAtLeast, htext]
  exact if_pos hearly

end Reference

/-- **The version gate is right about every reference.** -/
theorem image_version_gate (r : ImageRef) (maj min : Int) (hmin : min < 2 ^ 63) :
    (valkeyImageAtLeast r.text maj min = true ↔ ∃ tag ∈ r.tag, ∃ n, majorOf tag = some n ∧
      (maj < n ∨ maj = n ∧ min ≤ minorOf tag)) ∧
    (r.tag = none → valkeyImageAtLeast r.text maj min = false) := by
  refine ⟨?_, fun h => r.atLeast_of_no_tag h maj min⟩
  cases h : r.tag with
  | none => simp [r.atLeast_of_no_tag h]
  | some tag =>
    rw [r.atLeast_of_tag h maj hmin]
    simp

/-- A registry with a port, a digest and a suffix. -/
theorem image_version_gate_of_pinned :
    valkeyImageAtLeast "reg.example:5000/valkey/valkey:9.1-rc1@sha256:07ab".toList 9 1 = true := by
  refine (image_version_gate ⟨some "reg.example:5000".toList, "valkey/valkey".toList,
    some "9.1-rc1".toList, some "sha256:07ab".toList, by decide, by decide, by decide⟩ 9 1
    (by decide)).1.mpr ?_
  exact ⟨_, rfl, 9, by decide +kernel, by decide +kernel⟩

end Wellcake.Image
