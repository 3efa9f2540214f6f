/-
  The SELECTION loop: walk over candidates, keep the first one, replace it by every later one that is
  better.

      best := nil
      for s in xs { if best == nil || better(s, best) { best = s } }

  The loop looks at one pair at a time, so what it ends with is a maximum only if `better` is a
  comparison of keys: `ByKey better key` says that, with the keys in any linear order (a
  lexicographic one for a chain of tie-breaks).  Then the loop keeps an element of the list whose key
  is greatest (`best_spec`), and if no two candidates have the same key it is better than every other
  one (`better_of_best`), in whatever order they come (`best_perm`).
-/
import Mathlib.Order.Basic
import Mathlib.Order.Lattice
import Mathlib.Data.List.Basic

namespace Selection

variable {α κ : Type} {better : α → α → Bool} {xs : List α} {b x : α}

section

variable (better : α → α → Bool)

/-- One turn of the loop. -/
def pick (best : Option α) (x : α) : Option α :=
  match best with
  | none => some x
  | some b => if better x b then some x else some b

/-- What the loop ends with; `none` if there is no candidate. -/
def best (xs : List α) : Option α := xs.foldl (pick better) none

end

/-- Being better is having the greater key. -/
def ByKey [LinearOrder κ] (better : α → α → Bool) (key : α → κ) : Prop :=
  ∀ a b, better a b = true ↔ key b < key a

section

variable [LinearOrder κ] {key : α → κ} (hkey : ByKey better key)

include hkey

/-- Once a candidate is held the loop ends with a candidate of the greatest key. -/
theorem foldl_pick_spec (xs : List α)
    (a : α) :
    ∃ b, xs.foldl (pick better) (some a) = some b ∧ b ∈ a :: xs ∧
      ∀ x ∈ a :: xs, key x ≤ key b := by
  induction xs generalizing a with
  | nil => exact ⟨a, rfl, .head _, by simp⟩
  | cons y ys ih =>
    rw [List.foldl_cons]
    by_cases hy : better y a = true
    · obtain ⟨b, hb, hmem, hmax⟩ := ih y
      refine ⟨b, by rw [pick, if_pos hy]; exact hb, .tail _ hmem, ?_⟩
      intro x hx
      rcases List.mem_cons.mp hx with rfl | hx
      · exact le_trans (le_of_lt ((hkey y x).mp hy)) (hmax y (.head _))
      · exact hmax x hx
    · obtain ⟨b, hb, hmem, hmax⟩ := ih a
      have hle : key y ≤ key a := not_lt.mp fun hlt => hy ((hkey y a).mpr hlt)
      refine ⟨b, by rw [pick, if_neg hy]; exact hb, ?_, ?_⟩
      · rcases List.mem_cons.mp hmem with rfl | hmem
        · exact .head _
        · exact .tail _ (.tail _ hmem)
      · intro x hx
        rcases List.mem_cons.mp hx with rfl | hx
        · exact hmax x (.head _)
        rcases List.mem_cons.mp hx with rfl | hx
        · exact le_trans hle (hmax a (.head _))
        · exact hmax x (.tail _ hx)

/-- The loop ends with a candidate of the greatest key. -/
theorem best_spec (h : best better xs = some b) : b ∈ xs ∧ ∀ x ∈ xs, key x ≤ key b := by
  cases xs with
  | nil => cases h
  | cons a xs =>
    obtain ⟨b', hb', hspec⟩ := foldl_pick_spec hkey xs a
    have heq : b = b' := Option.some.inj (h.symm.trans hb')
    rw [heq]
    exact hspec

/-- Without equal keys the loop ends with the candidate that is better than every other one. -/
theorem better_of_best (h : best better xs = some b) (hx : x ∈ xs) (hne : key x ≠ key b) : better b x = true :=
  (hkey b x).mpr (lt_of_le_of_ne ((best_spec hkey h).2 x hx) hne)

/-- The loop ends without a candidate only if there is none. -/
theorem exists_best (hx : x ∈ xs) :
    ∃ b, best better xs = some b := by
  cases xs with
  | nil => cases hx
  | cons a xs =>
    obtain ⟨b, hb, -⟩ := foldl_pick_spec hkey xs a
    exact ⟨b, hb⟩

/-- Without equal keys the order of the candidates does not matter. -/
theorem best_perm {ys : List α}
    (hinj : ∀ a ∈ xs, ∀ b ∈ xs, key a = key b → a = b) (h : best better xs = some b)
    (hperm : ys.Perm xs) : best better ys = some b := by
  obtain ⟨hmem, hmax⟩ := best_spec hkey h
  obtain ⟨c, hc⟩ := exists_best hkey (hperm.mem_iff.mpr hmem)
  obtain ⟨hcmem, hcmax⟩ := best_spec hkey hc
  have hcxs := hperm.mem_iff.mp hcmem
  have heq : key c = key b := le_antisymm (hmax c hcxs) (hcmax b (hperm.mem_iff.mpr hmem))
  rw [hc, hinj c hcxs b hmem heq]

end

end Selection
