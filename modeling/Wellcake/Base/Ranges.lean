/-
  Sets of numbers written as closed ranges, and the scan that COLLAPSES an ascending list of
  numbers into ranges: a range is open while the next number is its successor, and is put out when
  it is not.

  The scan loses nothing: reading the ranges out again gives the list back (`cover_collapse`).
  Everything else about it follows from that one round trip — what the ranges cover, and, when no
  number is listed twice, that no two of them meet.
-/
import Mathlib.Data.List.Nodup
import Mathlib.Data.List.Range
import Mathlib.Data.Finset.Basic
import Mathlib.Order.Interval.Finset.Nat

namespace Ranges

/-- A closed range of numbers, never empty. -/
structure Range where
  lo : Nat
  hi : Nat
  le : lo ≤ hi
  deriving DecidableEq

/-- The range of one number. -/
def Range.single (n : Nat) : Range := ⟨n, n, le_rfl⟩

section

variable (r : Range)

/-- A range made one longer. -/
def Range.extend : Range := ⟨r.lo, r.hi + 1, r.le.trans (Nat.le_succ _)⟩

/-- The numbers of a range, in order. -/
def Range.members : List Nat := List.range' r.lo (r.hi + 1 - r.lo)

@[simp] theorem Range.mem_members {r : Range} {n : Nat} :
    n ∈ r.members ↔ r.lo ≤ n ∧ n ≤ r.hi := by
  have hle := r.le
  rw [Range.members, List.mem_range'_1]
  omega

@[simp] theorem Range.members_single (n : Nat) : (Range.single n).members = [n] := by
  simp [Range.members, Range.single]

theorem Range.members_extend : r.extend.members = r.members ++ [r.hi + 1] := by
  have hle := r.le
  have hlen : r.hi + 1 + 1 - r.lo = (r.hi + 1 - r.lo) + 1 := by omega
  have hlast : r.lo + 1 * (r.hi + 1 - r.lo) = r.hi + 1 := by omega
  simp only [Range.members, Range.extend]
  rw [hlen, List.range'_concat, hlast]

/-- The numbers of a list of ranges, range by range. -/
def cover (rs : List Range) : List Nat := rs.flatMap Range.members

theorem cover_cons (rs : List Range) : cover (r :: rs) = r.members ++ cover rs :=
  List.flatMap_cons

end

section

variable {rs : List Range} {owned : Finset Nat}

theorem mem_cover {n : Nat} :
    n ∈ cover rs ↔ ∃ r ∈ rs, r.lo ≤ n ∧ n ≤ r.hi := by
  simp [cover, List.mem_flatMap]

theorem cover_eq_nil : cover rs = [] ↔ rs = [] := by
  constructor
  · intro h
    cases rs with
    | nil => rfl
    | cons r rs =>
      have hlo : r.lo ∈ cover (r :: rs) := mem_cover.mpr ⟨r, .head _, le_rfl, r.le⟩
      rw [h] at hlo
      cases hlo
  · rintro rfl
    rfl

/-- Ranges that list no number twice do not meet. -/
theorem pairwise_disjoint_of_nodup (h : (cover rs).Nodup) :
    rs.Pairwise fun r s => ∀ n, r.lo ≤ n ∧ n ≤ r.hi → ¬(s.lo ≤ n ∧ n ≤ s.hi) := by
  refine (List.nodup_flatMap.mp h).2.imp fun hdisjoint n hr hs => ?_
  exact hdisjoint (Range.mem_members.mpr hr) (Range.mem_members.mpr hs)

/-! ## Collapsing -/

/-- The scan with the range `r` open. -/
def collapseFrom (r : Range) : List Nat → List Range
  | [] => [r]
  | n :: ns => if n = r.hi + 1 then collapseFrom r.extend ns else r :: collapseFrom (.single n) ns

/-- The maximal runs of successors in a list. -/
def collapse : List Nat → List Range
  | [] => []
  | n :: ns => collapseFrom (.single n) ns

theorem cover_collapseFrom (r : Range) (ns : List Nat) :
    cover (collapseFrom r ns) = r.members ++ ns := by
  induction ns generalizing r with
  | nil => simp [collapseFrom, cover]
  | cons n ns ih =>
    rw [collapseFrom]
    split
    · rename_i hn
      rw [ih, Range.members_extend, hn, List.append_assoc, List.singleton_append]
    · rw [cover_cons, ih, Range.members_single, List.singleton_append]

/-- **The round trip**: the collapsed ranges list exactly what was collapsed. -/
@[simp] theorem cover_collapse (ns : List Nat) : cover (collapse ns) = ns := by
  cases ns with
  | nil => rfl
  | cons n ns =>
    rw [collapse, cover_collapseFrom, Range.members_single, List.singleton_append]

/-! ## Adding ranges to a set -/

/-- A range is added whole, or, when one of its numbers is there already, not at all. -/
def addRange (owned : Finset Nat) (r : Range) : Finset Nat :=
  if Disjoint (Finset.Icc r.lo r.hi) owned then owned ∪ Finset.Icc r.lo r.hi else owned

theorem mem_addRange_of_fresh {r : Range}
    (hfresh : ∀ n ∈ r.members, n ∉ owned) {n : Nat} :
    n ∈ addRange owned r ↔ n ∈ owned ∨ n ∈ r.members := by
  have hdisjoint : Disjoint (Finset.Icc r.lo r.hi) owned := by
    refine Finset.disjoint_left.mpr fun m hm => hfresh m ?_
    exact Range.mem_members.mpr (Finset.mem_Icc.mp hm)
  rw [addRange, if_pos hdisjoint, Finset.mem_union, Finset.mem_Icc, Range.mem_members]

/-- Ranges that meet neither each other nor the set are all added. -/
theorem mem_foldl_addRange (hnodup : (cover rs).Nodup)
    (hfresh : ∀ n ∈ cover rs, n ∉ owned) {n : Nat} :
    n ∈ rs.foldl addRange owned ↔ n ∈ owned ∨ n ∈ cover rs := by
  induction rs generalizing owned with
  | nil => simp [cover]
  | cons r rs ih =>
    rw [cover_cons] at hnodup hfresh
    obtain ⟨-, hrest, hdisjoint⟩ := List.nodup_append'.mp hnodup
    have hr : ∀ n ∈ r.members, n ∉ owned := fun n hn => hfresh n (List.mem_append_left _ hn)
    have hrs : ∀ n ∈ cover rs, n ∉ addRange owned r := by
      intro m hm
      rw [mem_addRange_of_fresh hr]
      rintro (howned | hmem)
      · exact hfresh m (List.mem_append_right _ hm) howned
      · exact hdisjoint hmem hm
    rw [List.foldl_cons, ih hrest hrs, mem_addRange_of_fresh hr, cover_cons, List.mem_append,
      or_assoc]

end

end Ranges
