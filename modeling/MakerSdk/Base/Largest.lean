import Mathlib.Algebra.Order.BigOperators.Group.List
import Mathlib.Algebra.Order.Monoid.Unbundled.Pow
import Mathlib.Data.List.Sort

namespace MakerSdk.Base.Lists

variable {α : Type} [AddCommMonoid α] [LinearOrder α] [IsOrderedAddMonoid α]

def largest (n : ℕ) (l : List α) : α := ((l.insertionSort (· ≥ ·)).take n).sum

section Sorted

variable {l : List α} {a : α} {n : ℕ}

theorem sum_take_succ_le (h : ∀ b ∈ l, b ≤ a) (h0 : 0 ≤ a) :
    (l.take (n + 1)).sum ≤ a + (l.take n).sum := by
  rw [List.take_add_one, List.sum_append, add_comm]
  refine add_le_add ?_ le_rfl
  cases hn : l[n]? with
  | none => simpa using h0
  | some b => simpa using h b (List.mem_of_getElem? hn)

theorem sum_le_sum_take {s : List α} (hsub : s.Sublist l) (hsorted : l.Pairwise (· ≥ ·))
    (h0 : ∀ b ∈ l, 0 ≤ b) : s.sum ≤ (l.take s.length).sum := by
  induction hsub with
  | slnil => exact le_rfl
  | @cons s l b hsub ih =>
    obtain ⟨hb, hsorted⟩ := List.pairwise_cons.mp hsorted
    obtain ⟨hb0, h0⟩ := List.forall_mem_cons.mp h0
    refine (ih hsorted h0).trans ?_
    cases hlen : s.length with
    | zero => simp
    | succ n =>
      rw [List.take_succ_cons, List.sum_cons]
      exact sum_take_succ_le hb hb0
  | @cons_cons s l b hsub ih =>
    obtain ⟨-, hsorted⟩ := List.pairwise_cons.mp hsorted
    obtain ⟨-, h0⟩ := List.forall_mem_cons.mp h0
    rw [List.length_cons, List.take_succ_cons, List.sum_cons, List.sum_cons]
    exact add_le_add le_rfl (ih hsorted h0)

end Sorted

theorem sum_le_largest {s l : List α} {n : ℕ} (hsub : s.Subperm l) (hn : s.length ≤ n)
    (h0 : ∀ b ∈ l, 0 ≤ b) : s.sum ≤ largest n l := by
  have hperm : (l.insertionSort (· ≥ ·)).Perm l := List.perm_insertionSort _ l
  obtain ⟨s', hs', hsub'⟩ := hsub.trans hperm.symm.subperm
  have h0' : ∀ b ∈ l.insertionSort (· ≥ ·), 0 ≤ b := fun b hb ↦ h0 b (hperm.mem_iff.mp hb)
  calc s.sum = s'.sum := hs'.sum_eq.symm
    _ ≤ ((l.insertionSort (· ≥ ·)).take s'.length).sum :=
      sum_le_sum_take hsub' (List.pairwise_insertionSort _ l) h0'
    _ ≤ largest n l := by
      rw [← hs'.length_eq] at hn
      refine List.Sublist.sum_le_sum (List.take_sublist_take_left hn) fun b hb ↦ ?_
      exact h0' b (List.mem_of_mem_take hb)

theorem largest_le {l : List α} {n : ℕ} {bound : α} (h : ∀ b ∈ l, b ≤ bound) (h0 : 0 ≤ bound) :
    largest n l ≤ n • bound := by
  have hperm : (l.insertionSort (· ≥ ·)).Perm l := List.perm_insertionSort _ l
  refine (List.sum_le_card_nsmul _ bound fun b hb ↦ ?_).trans
    (nsmul_le_nsmul_left h0 (List.length_take_le ..))
  exact h b (hperm.mem_iff.mp (List.mem_of_mem_take hb))

end MakerSdk.Base.Lists
