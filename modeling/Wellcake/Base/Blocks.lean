/-
  A list made of BLOCKS, and what a cut does to the blocks.

  A list that is cut after `c` elements falls into what is before the cut and what is after it.  If
  the list is the concatenation of blocks, the cut may go through a block.  It does not exactly when
  it is at a BOUNDARY, that is, when `c` is the size of the first `j` blocks for some `j`: one
  direction is `List.take_sum_flatten`, the other one `exists_boundary`.
-/
import Mathlib.Algebra.BigOperators.Group.List.Basic
import Mathlib.Algebra.GroupWithZero.Nat
import Mathlib.Data.List.Sort

namespace Blocks

variable {α : Type}

section

variable (blocks : List (List α)) (j : Nat)

/-- The size of the first `j` blocks. -/
def boundary : Nat := ((blocks.map List.length).take j).sum

@[simp] theorem boundary_zero : boundary blocks 0 = 0 := rfl

@[simp] theorem boundary_succ (b : List α) (blocks : List (List α)) (j : Nat) :
    boundary (b :: blocks) (j + 1) = b.length + boundary blocks j := rfl

/-- The boundaries of blocks of one size. -/
theorem boundary_of_length {blocks : List (List α)} {size : Nat}
    (h : ∀ b ∈ blocks, b.length = size) {j : Nat} (hj : j ≤ blocks.length) :
    boundary blocks j = j * size := by
  induction blocks generalizing j with
  | nil =>
    obtain rfl := Nat.le_zero.mp hj
    rw [boundary_zero, Nat.zero_mul]
  | cons b blocks ih =>
    obtain ⟨hb, hrest⟩ := List.forall_mem_cons.mp h
    cases j with
    | zero => rw [boundary_zero, Nat.zero_mul]
    | succ j =>
      rw [boundary_succ, hb, ih hrest (Nat.le_of_succ_le_succ hj), Nat.succ_mul, Nat.add_comm]

/-- All the blocks are the whole list. -/
theorem boundary_length :
    boundary blocks blocks.length = blocks.flatten.length := by
  induction blocks with
  | nil => rfl
  | cons b blocks ih =>
    rw [List.length_cons, boundary_succ, ih, List.flatten_cons, List.length_append]

/-- A cut at a boundary takes whole blocks. -/
theorem take_boundary :
    blocks.flatten.take (boundary blocks j) = (blocks.take j).flatten :=
  List.take_sum_flatten blocks j

end

/-- **Only a cut at a boundary leaves every block whole.** -/
theorem exists_boundary {blocks : List (List α)} (hnodup : blocks.flatten.Nodup) {c : Nat}
    (hc : c ≤ blocks.flatten.length)
    (hwhole : ∀ b ∈ blocks, (∀ x ∈ b, x ∈ blocks.flatten.take c) ∨
      ∀ x ∈ b, x ∉ blocks.flatten.take c) :
    ∃ j ≤ blocks.length, c = boundary blocks j := by
  induction blocks generalizing c with
  | nil => exact ⟨0, le_rfl, Nat.le_zero.mp hc⟩
  | cons b blocks ih =>
    rw [List.flatten_cons] at hnodup hc hwhole
    obtain ⟨hb, hrest, hdisjoint⟩ := List.nodup_append'.mp hnodup
    rcases Nat.lt_or_ge c b.length with hlt | hge
    · -- the cut is in the first block, so it is at its start
      rw [List.take_append_of_le_length (le_of_lt hlt)] at hwhole
      rcases hwhole b (.head _) with hall | hnone
      · have hmem := hall _ (List.getElem_mem hlt)
        obtain ⟨i, hi, heq⟩ := List.mem_take_iff_getElem.mp hmem
        have hic := (List.Nodup.getElem_inj_iff hb).mp heq
        omega
      · refine ⟨0, Nat.zero_le _, Nat.eq_zero_of_not_pos fun hpos => ?_⟩
        have hmem : b[0] ∈ b.take c := List.mem_take_iff_getElem.mpr ⟨0, by omega, rfl⟩
        exact hnone _ (List.getElem_mem _) hmem
    · obtain ⟨d, rfl⟩ := Nat.exists_eq_add_of_le hge
      rw [List.take_length_add_append] at hwhole
      rw [List.length_append] at hc
      have hwhole' : ∀ b' ∈ blocks, (∀ x ∈ b', x ∈ blocks.flatten.take d) ∨
          ∀ x ∈ b', x ∉ blocks.flatten.take d := by
        intro b' hb'
        rcases hwhole b' (List.mem_cons_of_mem b hb') with hall | hnone
        · refine .inl fun x hx => ?_
          rcases List.mem_append.mp (hall x hx) with hxb | hxd
          · exact absurd (List.mem_flatten.mpr ⟨b', hb', hx⟩) (hdisjoint hxb)
          · exact hxd
        · exact .inr fun x hx hxd => hnone x hx (List.mem_append_right b hxd)
      obtain ⟨j, hj, rfl⟩ := ih hrest (by omega) hwhole'
      exact ⟨j + 1, Nat.succ_le_succ hj, rfl⟩

/-- If only elements of one kind are before a cut, they are the first ones of that kind. -/
theorem take_filter_of_forall {p : α → Bool} {l : List α} {c : Nat} (hc : c ≤ l.length)
    (h : ∀ x ∈ l.take c, p x = true) : (l.filter p).take c = l.take c := by
  have hsplit : l.filter p = l.take c ++ (l.drop c).filter p := by
    calc l.filter p = (l.take c ++ l.drop c).filter p := by rw [List.take_append_drop]
      _ = (l.take c).filter p ++ (l.drop c).filter p := List.filter_append ..
      _ = l.take c ++ (l.drop c).filter p := by rw [List.filter_eq_self.mpr h]
  have hlength : (l.take c).length = c := by rw [List.length_take, Nat.min_eq_left hc]
  calc (l.filter p).take c = (l.take c ++ (l.drop c).filter p).take c := by rw [hsplit]
    _ = l.take c := by rw [List.take_append_of_le_length (le_of_eq hlength.symm),
        List.take_of_length_le (le_of_eq hlength)]

end Blocks
